import NgxNats.Verif.Growth
import NgxNats.Verif.Rounds
import NgxNats.Verif.SurvivalRuns
import NgxNats.Verif.Within

/-!
# Room for the next bytes

The reader asks for `cap - end - 1` bytes at a time. Each round leaves the consumed bytes behind,
moves what is incomplete to the front and doubles a block that an incomplete message fills, so there
is always room for one more byte. A handler that closes the connection empties the read buffer in
the middle of a round; while none does, the room is there at every call of `c->recv`.
-/
namespace NgxNats

open Program (Leads Moves)
open History (Throughout since throughout_concat throughout_nil)

/-- The capacity the read buffer had when the reader asked for bytes or looked at them. -/
def Event.capacity : Event → Option Nat
  | .recv _ _ cap => some cap
  | .scanned _ _ cap => some cap
  | _ => none

/-- The last capacity the read buffer had. -/
def lastCapacity (log : List Event) : Nat :=
  (log.filterMap Event.capacity).getLast?.getD bufInitSize

/-- The bytes an event received. -/
def Event.receivedBytes : Event → List UInt8
  | .received bytes => bytes
  | _ => []

/-- The bytes received since the last connection was closed. -/
def receivedBytes (log : List Event) : List UInt8 :=
  (since Event.isClosed log).flatMap Event.receivedBytes

/-- The reader goes on, or refuses a message. -/
def Event.pauses : Event → Bool
  | .recv .. | .scanned .. | .rejected _ => true
  | _ => false

/-- A message was accepted for dispatch. -/
def Event.isHandled : Event → Bool
  | .handled _ => true
  | _ => false

/-- A message is being dispatched: its handlers run until the reader goes on or refuses it. -/
def Handling (log : List Event) : Bool := (since Event.pauses log).any Event.isHandled

/-- No handler closes the connection. -/
def HandlersKeep (before : List Event) (event : Event) : Prop :=
  event.isClosed = true → Handling before = false

instance (before : List Event) (event : Event) : Decidable (HandlersKeep before event) :=
  inferInstanceAs (Decidable (_ → _))

/-- A capacity of the read buffer: the initial one, doubled, and at most the limit. -/
def Sized (cap : Nat) : Prop := (∃ k, cap = bufInitSize * 2 ^ k) ∧ cap ≤ maxMessageSize

/-- The read buffer has its capacity from doubling the last one at most once, `c->recv` is asked for
at least one byte behind the pending ones, and what it received stays before the last byte. -/
def Roomed (before : List Event) (event : Event) : Prop :=
  (∀ cap ∈ event.capacity, Sized cap ∧
    (cap = lastCapacity before ∨ cap = 2 * lastCapacity before)) ∧
  match event with
  | .recv pos stop cap => pos = 0 ∧ stop < cap - 1
  | .scanned pos stop cap => pos ≤ stop ∧ stop < cap
  | _ => True

/-- The reader looks at a valid buffer with no more bytes than were received on the connection, and
dispatches what it has looked at since. -/
def Fresh (before : List Event) : Event → Prop
  | .scanned pos stop cap =>
    pos ≤ stop ∧ stop ≤ cap ∧ stop ≤ (receivedBytes before).length
  | .handled _ => ∃ pos stop cap, .scanned pos stop cap ∈ since Event.isClosed before ∧ pos < stop
  | _ => True

/-- Events that say nothing of the read buffer and leave the connection open. -/
def Event.unmeasured : Event → Bool
  | .recv .. | .scanned .. | .received _ | .handled _ | .closed _ => false
  | _ => true

section Log

variable {log events : List Event}

/-- An unmeasured event meets any condition on the read buffer. -/
theorem fresh_of_unmeasured {event : Event} (unmeasured : event.unmeasured = true)
    (before : List Event) : Roomed before event ∧ Fresh before event := by
  cases event with
  | recv => cases unmeasured
  | scanned => cases unmeasured
  | handled => cases unmeasured
  | _ => exact ⟨⟨fun cap some => absurd some (Option.not_mem_none cap), trivial⟩, trivial⟩

/-- Events without a capacity do not change the last one. -/
theorem lastCapacity_append (other : ∀ event ∈ events, event.capacity = none) :
    lastCapacity (log ++ events) = lastCapacity log := by
  unfold lastCapacity
  rw [List.filterMap_append, List.filterMap_eq_nil_iff.mpr other, List.append_nil]

/-- An event without a capacity does not change the last one. -/
theorem lastCapacity_keep {event : Event} (other : event.capacity = none) :
    lastCapacity (log ++ [event]) = lastCapacity log :=
  lastCapacity_append (List.forall_mem_singleton.mpr other)

/-- Unmeasured events have no capacity. -/
theorem capacity_of_unmeasured {event : Event} (unmeasured : event.unmeasured = true) :
    event.capacity = none := by
  cases event with
  | recv => cases unmeasured
  | scanned => cases unmeasured
  | _ => rfl

/-- The capacity at which the reader looked is the last one. -/
theorem lastCapacity_concat {event : Event} {cap : Nat} (looked : event.capacity = some cap) :
    lastCapacity (log ++ [event]) = cap := by
  unfold lastCapacity
  rw [List.filterMap_append, List.filterMap_cons_some looked, List.filterMap_nil,
    List.getLast?_concat]
  rfl

/-- Events on an open connection add what they received. -/
theorem receivedBytes_append (unclosed : ∀ event ∈ events, event.isClosed = false) :
    receivedBytes (log ++ events) = receivedBytes log ++ events.flatMap Event.receivedBytes := by
  unfold receivedBytes
  rw [History.since_append Event.isClosed unclosed, List.flatMap_append]

/-- An unmeasured event closes no connection. -/
theorem unclosed_of_unmeasured {event : Event} (unmeasured : event.unmeasured = true) :
    event.isClosed = false := by
  cases event with
  | closed => cases unmeasured
  | _ => rfl

end Log

/-- The read buffer before a call of `c->recv`. -/
structure Buf.Roomy (b : Buf) : Prop where
  sized : Sized b.cap
  front : b.pos = 0
  room : b.end + 1 < b.cap

/-- The read buffer in the loop over its messages. -/
structure Buf.Loaded (b : Buf) : Prop where
  sized : Sized b.cap
  start : b.pos ≤ b.end
  room : b.end < b.cap

/-- The initial capacity is one. -/
theorem sized_init : Sized bufInitSize := ⟨⟨0, rfl⟩, by decide⟩

/-- A capacity is at least the initial one. -/
theorem Sized.least {cap : Nat} (sized : Sized cap) : bufInitSize ≤ cap := by
  obtain ⟨⟨k, rfl⟩, -⟩ := sized
  exact Nat.le_mul_of_pos_right bufInitSize (Nat.two_pow_pos k)

/-- A capacity below the limit may be doubled. -/
theorem Sized.double {cap : Nat} (sized : Sized cap) (small : cap < maxMessageSize) :
    Sized (2 * cap) := by
  obtain ⟨⟨k, rfl⟩, -⟩ := sized
  have limit : maxMessageSize = bufInitSize * 2 ^ 16 := by decide
  rw [limit] at small
  have below : k < 16 := by
    apply (Nat.pow_lt_pow_iff_right (a := 2) (by decide)).mp
    exact Nat.lt_of_mul_lt_mul_left small
  have twice : 2 * (bufInitSize * 2 ^ k) = bufInitSize * 2 ^ (k + 1) := by
    rw [Nat.pow_succ, Nat.mul_comm 2, Nat.mul_assoc]
  refine ⟨⟨k + 1, twice⟩, ?_⟩
  rw [twice, limit]
  exact Nat.mul_le_mul_left bufInitSize (Nat.pow_le_pow_right (by decide) below)

/-- An emptied buffer has room. -/
theorem Buf.roomy_reset {b : Buf} (sized : Sized b.cap) : b.reset.Roomy := by
  have least := sized.least
  simp only [bufInitSize] at least
  exact ⟨sized, rfl, by simp only [Buf.reset]; omega⟩

/-- A buffer with room is valid. -/
theorem Buf.Roomy.loaded {b : Buf} (roomy : b.Roomy) : b.Loaded := by
  obtain ⟨sized, front, room⟩ := roomy
  exact ⟨sized, by omega, by omega⟩

/-- What is received into the room stays before the last byte. -/
theorem Buf.Roomy.push {b : Buf} {bytes : List UInt8} (roomy : b.Roomy)
    (fits : bytes.length ≤ b.cap - b.end - 1) : (b.push bytes).Loaded := by
  obtain ⟨sized, front, room⟩ := roomy
  refine ⟨sized, ?_, ?_⟩
  · show b.pos ≤ b.end + bytes.length
    omega
  · show b.end + bytes.length < b.cap
    omega

/-- Consuming pending bytes keeps the buffer loaded. -/
theorem Buf.Loaded.skip {b : Buf} {count : Nat} (loaded : b.Loaded)
    (inside : count ≤ b.end - b.pos) : Buf.Loaded { b with pos := b.pos + count } := by
  obtain ⟨sized, start, room⟩ := loaded
  exact ⟨sized, by simp only; omega, room⟩

/-- An incomplete message at the front of the buffer. -/
structure Buf.Packed (b : Buf) : Prop where
  sized : Sized b.cap
  front : b.pos = 0
  room : b.end < b.cap

/-- Moving an incomplete message to the front. -/
theorem Buf.Loaded.compacted {b b' : Buf} (loaded : b.Loaded) (run : b.compact = .ok b') :
    b'.Packed ∧ b'.cap = b.cap ∧ b'.end ≤ b.end := by
  obtain ⟨sized, start, room⟩ := loaded
  obtain ⟨found, same, -, front, count, cap, -⟩ :=
    Buf.compact_valid (b := b) ⟨start, Nat.le_of_lt room⟩
  rw [run] at same
  cases same
  exact ⟨⟨by rw [cap]; exact sized, front, by omega⟩, cap, by omega⟩

/-- A block that is full from its front on asks for twice its capacity. -/
theorem Buf.ensure_full {b : Buf} (alloc : Alloc) (front : b.pos = 0) (room : b.end < b.cap)
    (full : b.cap - 1 ≤ b.end) (least : bufInitSize ≤ b.cap) (small : b.cap < maxMessageSize) :
    b.ensure alloc (b.cap - 1) false = match alloc (2 * b.cap) with
      | none => .ok (ngxError, b)
      | some bnew => .ok (ngxOk, b.realloc bnew (2 * b.cap)) := by
  simp only [bufInitSize] at least
  have valid : b.Valid := ⟨by omega, by omega⟩
  have kept : b.settled = b := if_neg (by omega)
  have other : ¬b.InPlace (b.cap - 1) false := by
    unfold InPlace
    omega
  have far : maxMessageSize < 2 ^ 62 := by decide
  obtain ⟨k, asked, covers, best⟩ := doubled_exact (b.cap - 1) (by omega) small (by omega)
  have twice : b.cap * 2 ^ (k + 1) = 2 * b.cap := by
    have upper := best 0 (by omega)
    have lower := twice_le_doubling b.cap k
    omega
  have grows : b.settled.grow alloc (b.cap - 1) = _ := grow_small small asked
  rw [twice, kept] at grows
  have ensures := ensure_otherwise valid other alloc
  rw [kept] at ensures
  exact ensures.trans grows

/-- A block that an incomplete message fills is doubled. -/
theorem Buf.Packed.doubles {b b' : Buf} {alloc : Alloc} {rc : Int} (packed : b.Packed)
    (full : b.cap - 1 ≤ b.end) (small : b.cap < maxMessageSize)
    (run : b.ensure alloc (b.cap - 1) false = .ok (rc, b')) :
    b'.end = b.end ∧ (rc = ngxOk ∧ b'.cap = 2 * b.cap ∧ b'.Roomy ∨
      rc ≠ ngxOk ∧ b'.cap = b.cap) := by
  obtain ⟨sized, front, room⟩ := packed
  have least := sized.least
  rw [Buf.ensure_full alloc front room full least small] at run
  simp only [bufInitSize] at least
  cases granted : alloc (2 * b.cap) with
  | none =>
    rw [granted] at run
    cases run
    exact ⟨rfl, .inr ⟨by decide, rfl⟩⟩
  | some bnew =>
    rw [granted] at run
    cases run
    refine ⟨rfl, .inl ⟨rfl, rfl, sized.double small, front, ?_⟩⟩
    show b.end + 1 < 2 * b.cap
    omega

/-- What `c->recv` puts into the buffer fits before its last byte. -/
theorem recvBytes_fits {found : Recv} {bytes : List UInt8} {w w' : World}
    (run : recvBytes found w = (.ok (.bytes bytes), w')) :
    bytes.length ≤ w.readBuf.cap - w.readBuf.end - 1 := by
  unfold recvBytes at run
  simp only [Program.get_bind, emit_bind, Program.ite_run] at run
  split at run
  · cases run
  · split at run
    · cases run
    · cases found with
      | bytes data =>
        dsimp only at run
        split at run
        · cases run
        · cases run
          rw [List.length_take]
          exact Nat.min_le_left _ _
      | again => cases run
      | eof => cases run
      | error => cases run

variable {env : Env} {k : Calls} {w w' : World} {events : List Event}
  {before after holds gone : Buf → Prop} {b : Buf}

/-- The read buffer meets a condition, and whenever the reader used it there was room. -/
structure Room (holds : Buf → Prop) (w : World) : Prop where
  holds : holds w.readBuf
  near : w.readBuf.cap = lastCapacity w.log ∨ w.readBuf.cap = 2 * lastCapacity w.log
  received : w.readBuf.end ≤ (receivedBytes w.log).length
  roomed : Throughout Roomed w.log
  fresh : Throughout Fresh w.log

/-- The read buffer is right unless a handler closed the connection. -/
structure Measured (holds : Buf → Prop) (w : World) : Prop where
  formed : w.writeBuf.WellFormed
  room : Throughout HandlersKeep w.log → Room holds w

/-- The reader had room, unless a handler closed the connection. -/
def HadRoom (w : World) : Prop :=
  Throughout HandlersKeep w.log → Throughout Roomed w.log ∧ Throughout Fresh w.log

/-- A measured log had room at every `recv`. -/
theorem Measured.hadRoom (measured : Measured holds w) : HadRoom w := fun keep =>
  ⟨(measured.room keep).roomed, (measured.room keep).fresh⟩

/-- Room after unmeasured events, in the same block with no more bytes. -/
theorem Room.extend (room : Room before w) (log : w'.log = w.log ++ events)
    (unmeasured : ∀ event ∈ events, event.unmeasured = true) (next : after w'.readBuf)
    (cap : w'.readBuf.cap = w.readBuf.cap) (stop : w'.readBuf.end ≤ w.readBuf.end) :
    Room after w' := by
  have unclosed (event : Event) (inside : event ∈ events) : event.isClosed = false :=
    unclosed_of_unmeasured (unmeasured event inside)
  constructor
  · exact next
  · rw [log, cap,
      lastCapacity_append fun event inside => capacity_of_unmeasured (unmeasured event inside)]
    exact room.near
  · rw [log, receivedBytes_append unclosed, List.length_append]
    exact Nat.le_trans stop (Nat.le_trans room.received (Nat.le_add_right _ _))
  · rw [log]
    exact room.roomed.append fun event inside earlier =>
      (fresh_of_unmeasured (unmeasured event inside) earlier).1
  · rw [log]
    exact room.fresh.append fun event inside earlier =>
      (fresh_of_unmeasured (unmeasured event inside) earlier).2

/-- A change that says nothing of the read buffer. -/
theorem Measured.extend (measured : Measured before w) (formed : w'.writeBuf.WellFormed)
    (log : w'.log = w.log ++ events) (unmeasured : ∀ event ∈ events, event.unmeasured = true)
    (next : before w.readBuf → after w'.readBuf) (cap : w'.readBuf.cap = w.readBuf.cap)
    (stop : w'.readBuf.end ≤ w.readBuf.end) : Measured after w' := by
  refine ⟨formed, fun keep => ?_⟩
  rw [log] at keep
  have room := measured.room keep.left
  exact room.extend log unmeasured (next room.holds) cap stop

/-- A change that leaves the read buffer alone. -/
theorem Measured.same (measured : Measured holds w) (formed : w'.writeBuf.WellFormed)
    (log : w'.log = w.log ++ events) (unmeasured : ∀ event ∈ events, event.unmeasured = true)
    (readBuf : w'.readBuf = w.readBuf) : Measured holds w' :=
  measured.extend formed log unmeasured (fun kept => by rw [readBuf]; exact kept)
    (by rw [readBuf]) (by rw [readBuf])

/-- A change that reports nothing and leaves the read buffer alone. -/
theorem Measured.silent (measured : Measured holds w) (formed : w'.writeBuf.WellFormed)
    (log : w'.log = w.log) (readBuf : w'.readBuf = w.readBuf) : Measured holds w' :=
  measured.same formed (log.trans (List.append_nil _).symm) (List.forall_mem_nil _) readBuf

/-- A weaker condition on the buffer. -/
theorem Measured.weaken (measured : Measured before w) (weaker : ∀ b, before b → after b) :
    Measured after w :=
  ⟨measured.formed, fun keep =>
    have room := measured.room keep
    ⟨weaker _ room.holds, room.near, room.received, room.roomed, room.fresh⟩⟩

/-- Emptying the read buffer. -/
theorem Measured.emptied (measured : Measured before w) (reset : ∀ b, before b → after b.reset)
    (formed : w'.writeBuf.WellFormed) (log : w'.log = w.log ++ events)
    (unmeasured : ∀ event ∈ events, event.unmeasured = true)
    (readBuf : w'.readBuf = w.readBuf.reset) : Measured after w' :=
  measured.extend formed log unmeasured (fun kept => by rw [readBuf]; exact reset _ kept)
    (by rw [readBuf]; rfl) (by rw [readBuf]; exact Nat.zero_le _)

/-- Idle events say nothing of the read buffer. -/
theorem unmeasured_of_idle {event : Event} (idle : event.idle = true) :
    event.unmeasured = true := by
  cases event with
  | recv => cases idle
  | scanned => cases idle
  | received => cases idle
  | handled => cases idle
  | closed => cases idle
  | _ => rfl

/-- The events of sending say nothing of the read buffer. -/
theorem unmeasured_of_sends {event : Event} (sends : event.sends = true) :
    event.unmeasured = true := by
  cases event with
  | send => rfl
  | writeEventFailed => rfl
  | _ => cases sends

/-- The event of an append says nothing of the read buffer. -/
theorem unmeasured_appendEvent (rc : Int) (message : List UInt8) (size : Nat) :
    (appendEvent rc message size).unmeasured = true := by
  unfold appendEvent
  split
  · rfl
  · rfl

/-- Closing a connection outside of a handler empties the read buffer. -/
theorem Measured.abandoned (measured : Measured before w) (reset : ∀ b, before b → after b.reset)
    (reason : Reason) : Measured after (w.abandoned reason) := by
  refine ⟨measured.formed.reset, fun keep => ?_⟩
  have room := measured.room keep.left
  have closes : Event.isClosed (.closed reason) = true := rfl
  constructor
  · exact reset _ room.holds
  · have last : lastCapacity (w.log ++ [.closed reason]) = lastCapacity w.log :=
      lastCapacity_keep rfl
    show w.readBuf.cap = lastCapacity (w.log ++ [.closed reason]) ∨ _
    rw [show (w.abandoned reason).log = w.log ++ [.closed reason] from rfl, last]
    exact room.near
  · exact Nat.zero_le _
  · exact throughout_concat.mpr ⟨room.roomed, fun cap some => absurd some (Option.not_mem_none cap),
      trivial⟩
  · exact throughout_concat.mpr ⟨room.fresh, trivial⟩

/-- Clients and closing keep a condition that emptying turns into a stronger one. -/
theorem measured_outlives (env : Env) (reset : ∀ b, holds b → gone b.reset)
    (weaker : ∀ b, gone b → holds b) :
    Outlives env (Measured holds) (Measured gone) HadRoom where
  formed measured := measured.formed
  faults measured := measured.hadRoom
  aside := by
    intro w w' measured aside
    obtain ⟨events, log, idle⟩ := aside.log
    exact measured.same (aside.writeBuf ▸ measured.formed) log
      (fun event inside => unmeasured_of_idle (idle event inside)) aside.readBuf
  append _ _ rc b measured _ _ added :=
    measured.same (measured.formed.add added).2 rfl
      (List.forall_mem_singleton.mpr (unmeasured_appendEvent _ _ _)) rfl
  flushed := by
    intro w w' ending measured flushed
    obtain ⟨events, log, sends⟩ := flushed.log
    exact measured.same (flushed.formed measured.formed) log
      (fun event inside => unmeasured_of_sends (sends event inside)) flushed.readBuf
  dangling measured _ := measured.hadRoom
  shut := by
    intro w c measured _
    have log : w.shutDown.log = w.log ++ if w.live.isSome then [.shut] else [] := rfl
    refine measured.same measured.formed log ?_ rfl
    intro event inside
    split at inside
    · exact List.mem_singleton.mp inside ▸ rfl
    · exact absurd inside List.not_mem_nil
  abandoned reason measured := measured.abandoned reset reason
  waits := by
    intro w w' measured aside
    obtain ⟨events, log, idle⟩ := aside.aside.log
    exact measured.same (aside.writeBuf ▸ measured.formed) log
      (fun event inside => unmeasured_of_idle (idle event inside)) aside.readBuf
  back measured := measured.weaken weaker

/-- Connecting and the events of a connection keep a condition that emptying keeps. -/
theorem measured_endures (env : Env) (reset : ∀ b, holds b → holds b.reset) :
    Endures env (Measured holds) HadRoom where
  toOutlives := measured_outlives env reset fun _ => id
  initiate := by
    intro w rc b measured _ added
    have appended := unmeasured_appendEvent rc (connstr env) (connstr env).length
    exact measured.same (measured.formed.add added).2 rfl
      (List.forall_mem_cons.mpr ⟨rfl, List.forall_mem_singleton.mpr appended⟩) rfl
  unallocated measured :=
    measured.emptied reset measured.formed.reset rfl (by simp [Event.unmeasured]) rfl
  unindexed measured := measured.hadRoom
  opened server measured :=
    measured.emptied reset measured.formed.reset rfl (by simp [Event.unmeasured]) rfl
  wired _ _ measured _ _ := measured.silent measured.formed rfl rfl
  timed measured _ _ := measured.silent measured.formed rfl rfl
  expired measured _ := measured.same measured.formed rfl (by simp [Event.unmeasured]) rfl

/-- No handler can close the connection any more: one did. -/
abbrev Lapsed : World → Prop := Measured fun _ => False

/-- Nothing brings the promise back. -/
theorem lapsed_endures (env : Env) : Endures env Lapsed HadRoom := measured_endures env fun _ => id

/-- A message is being dispatched from this buffer, unless a handler closed the connection. -/
structure Holding (b : Buf) (w : World) : Prop where
  formed : w.writeBuf.WellFormed
  room : Throughout HandlersKeep w.log →
    Room (fun found => found = b ∧ b.Loaded) w ∧ Handling w.log = true

/-- A change that neither pauses the dispatch nor touches the read buffer. -/
theorem Holding.same (holding : Holding b w) (formed : w'.writeBuf.WellFormed)
    (log : w'.log = w.log ++ events)
    (unmeasured : ∀ event ∈ events, event.unmeasured = true ∧ event.pauses = false)
    (readBuf : w'.readBuf = w.readBuf) : Holding b w' := by
  refine ⟨formed, fun keep => ?_⟩
  rw [log] at keep
  obtain ⟨room, handling⟩ := holding.room keep.left
  refine ⟨room.extend log (fun event inside => (unmeasured event inside).1)
    (by rw [readBuf]; exact room.holds) (by rw [readBuf]) (by rw [readBuf]), ?_⟩
  unfold Handling at handling ⊢
  rw [log, History.since_append Event.pauses fun event inside => (unmeasured event inside).2,
    List.any_append, handling]
  rfl

/-- Idle events do not pause a dispatch. -/
theorem pauses_of_idle {event : Event} (idle : event.idle = true) : event.pauses = false := by
  cases event with
  | recv => cases idle
  | scanned => cases idle
  | rejected => cases idle
  | _ => rfl

/-- The events of sending do not pause a dispatch. -/
theorem pauses_of_sends {event : Event} (sends : event.sends = true) : event.pauses = false := by
  cases event with
  | send => rfl
  | writeEventFailed => rfl
  | _ => cases sends

/-- The event of an append does not pause a dispatch. -/
theorem pauses_appendEvent (rc : Int) (message : List UInt8) (size : Nat) :
    (appendEvent rc message size).pauses = false := by
  unfold appendEvent
  split
  · rfl
  · rfl

/-- What holds of a dispatch holds of the read buffer. -/
theorem Holding.measured (holding : Holding b w) (follows : b.Loaded → after b) :
    Measured after w := by
  refine ⟨holding.formed, fun keep => ?_⟩
  obtain ⟨room, -⟩ := holding.room keep
  obtain ⟨same, loaded⟩ := room.holds
  exact ⟨same ▸ follows loaded, room.near, room.received, room.roomed, room.fresh⟩

/-- While a message is dispatched there was room at every `recv`. -/
theorem Holding.hadRoom (holding : Holding b w) : HadRoom w :=
  (holding.measured fun loaded => loaded).hadRoom

/-- A handler that closes the connection is not promised anything. -/
theorem Holding.abandoned (holding : Holding b w) (reason : Reason) :
    Lapsed (w.abandoned reason) := by
  refine ⟨holding.formed.reset, fun keep => ?_⟩
  obtain ⟨-, handling⟩ := holding.room keep.left
  have kept : HandlersKeep w.log (.closed reason) := (throughout_concat.mp keep).2
  rw [kept rfl] at handling
  cases handling

/-- Dispatching a message leaves the read buffer alone, unless a handler closes the connection. -/
theorem holding_listens (env : Env) (b : Buf) : Listens env (Holding b) Lapsed HadRoom where
  formed holding := holding.formed
  faults holding := holding.hadRoom
  aside := by
    intro w w' holding aside
    obtain ⟨events, log, idle⟩ := aside.log
    exact holding.same (aside.writeBuf ▸ holding.formed) log
      (fun event inside =>
        ⟨unmeasured_of_idle (idle event inside), pauses_of_idle (idle event inside)⟩)
      aside.readBuf
  append _ _ _ _ holding _ _ added := holding.same (holding.formed.add added).2 rfl
    (List.forall_mem_singleton.mpr ⟨unmeasured_appendEvent _ _ _, pauses_appendEvent _ _ _⟩) rfl
  flushed := by
    intro w w' ending holding flushed
    obtain ⟨events, log, sends⟩ := flushed.log
    exact holding.same (flushed.formed holding.formed) log
      (fun event inside =>
        ⟨unmeasured_of_sends (sends event inside), pauses_of_sends (sends event inside)⟩)
      flushed.readBuf
  dangling holding _ := holding.hadRoom
  shut := by
    intro w c holding _
    have log : w.shutDown.log = w.log ++ if w.live.isSome then [.shut] else [] := rfl
    refine holding.same holding.formed log ?_ rfl
    intro event inside
    split at inside
    · exact List.mem_singleton.mp inside ▸ ⟨rfl, rfl⟩
    · exact absurd inside List.not_mem_nil
  abandoned reason holding := holding.abandoned reason
  waits lapsed aside := (lapsed_endures env).beside lapsed aside
  back lapsed := ⟨lapsed.formed, fun keep => (lapsed.room keep).holds.elim⟩
  informed _ holding _ _ _ := holding.same holding.formed (List.append_nil _).symm
    (List.forall_mem_nil _) rfl
  reply _ _ _ _ holding _ _ added := holding.same (holding.formed.add added).2 rfl
    (List.forall_mem_singleton.mpr ⟨unmeasured_appendEvent _ _ _, pauses_appendEvent _ _ _⟩) rfl
  ready _ _ holding _ _ _ := holding.same holding.formed rfl
    (List.forall_mem_singleton.mpr ⟨rfl, rfl⟩) rfl

/-- The read buffer between calls of the reader. -/
abbrev Resting : World → Prop := Measured Buf.Roomy

/-- The read buffer has some capacity. -/
abbrev Standing : World → Prop := Measured fun b => Sized b.cap

/-- A resting reader survives events. -/
theorem resting_endures (env : Env) : Endures env Resting HadRoom :=
  measured_endures env fun _ roomy => Buf.roomy_reset roomy.sized

/-- Closing the connection lets the reader rest. -/
theorem standing_outlives (env : Env) : Outlives env Standing Resting HadRoom :=
  measured_outlives env (fun _ sized => Buf.roomy_reset sized) fun _ roomy => roomy.sized

/-- The calls a reader makes back into the module: of a resting one, of one that closes its
connection, and of one that dispatches a message. -/
structure CallsRest (k : Calls) : Prop where
  resting : CallsSurvive k Resting HadRoom
  standing : CallsOutlive k Standing Resting HadRoom
  holding : ∀ b, CallsOutlive k (Holding b) Lapsed HadRoom

/-- Connecting and the callbacks leave the reader resting, to any depth. -/
theorem calls_rest (env : Env) (depth : Nat) : CallsRest (calls env depth) where
  resting := (resting_endures env).calls depth
  standing := (standing_outlives env).calls
    (fun depth _ => ((resting_endures env).calls depth).connect) depth
  holding b := (holding_listens env b).toOutlives.calls
    (fun depth _ => ((lapsed_endures env).calls depth).connect) depth

/-- A refused message closes the connection. -/
theorem Measured.refused (standing : Standing w) (calls : CallsRest k) (reason : Reason) :
    Leads (closeConnection env k reason true) { w with log := w.log ++ [.rejected w.nc.state] }
      (fun _ => Resting) HadRoom := by
  have rejected : Standing { w with log := w.log ++ [.rejected w.nc.state] } :=
    standing.same standing.formed rfl (List.forall_mem_singleton.mpr rfl) rfl
  exact (standing_outlives env).closeConnection calls.standing rejected reason

/-- A refused message whose handling returns an error. -/
theorem rejectReturn_measured (standing : Standing w) (calls : CallsRest k) (reason : Reason) :
    Leads (do
      let _ ← reject env k reason
      return ngxError) w (fun rc w' => rc ≤ 0 ∧ Resting w') HadRoom := by
  have refuses : Leads (reject env k reason) w (Answered (fun _ => False) Resting) HadRoom :=
    reject_answered (standing.refused calls reason)
  apply Leads.bind refuses
  intro went w₁ resting
  cases went with
  | true => exact resting.elim
  | false => exact Leads.pure ⟨by decide, resting⟩

/-- Replacing the read buffer by one with no more bytes. -/
theorem Measured.replace (measured : Measured before w)
    (replaced : Throughout HandlersKeep w.log → Room before w → after b ∧
      (b.cap = lastCapacity w.log ∨ b.cap = 2 * lastCapacity w.log) ∧
      b.end ≤ w.readBuf.end) : Measured after { w with readBuf := b } := by
  refine ⟨measured.formed, fun keep => ?_⟩
  have room := measured.room keep
  obtain ⟨next, near, stop⟩ := replaced keep room
  exact ⟨next, near, Nat.le_trans stop room.received, room.roomed, room.fresh⟩

/-- The read buffer meets a condition, with the capacity it had when the reader last looked. -/
structure Looked (holds : Buf → Prop) (w : World) : Prop where
  measured : Measured holds w
  cap : Throughout HandlersKeep w.log → w.readBuf.cap = lastCapacity w.log

/-- A full block is doubled, or the connection is closed. -/
theorem grow_measured (calls : CallsRest k) (looked : Looked Buf.Packed w)
    (full : w.readBuf.cap - 1 ≤ w.readBuf.end) (small : w.readBuf.cap < maxMessageSize) :
    Leads (do
      let alloc ← ask env.alloc
      let (rc, buf) ← lift (w.readBuf.ensure alloc (w.readBuf.cap - 1) false)
      setReadBuf buf
      if rc ≠ ngxOk then
        let _ ← reject env k .noMemory
        return ngxError
      else return ngxOk) w (fun rc w' => rc ≤ 0 ∧ Resting w') HadRoom := by
  apply Leads.of_run (ask_bind w env.alloc _)
  have ticked : Measured Buf.Packed { w with clock := w.clock + 1 } :=
    looked.measured.silent looked.measured.formed rfl rfl
  cases ensured : w.readBuf.ensure (env.alloc w.clock) (w.readBuf.cap - 1) false with
  | error stop => exact ticked.hadRoom
  | ok answer =>
    obtain ⟨rc, buf⟩ := answer
    apply Leads.of_run (lift_ok_bind _ (rc, buf) _)
    apply Leads.of_run (setReadBuf_bind _ buf _)
    split
    · next refused =>
      refine rejectReturn_measured (ticked.replace fun keep room => ?_) calls _
      obtain ⟨stop, granted | kept⟩ := room.holds.doubles full small ensured
      · exact absurd granted.1 refused
      · have same : buf.cap = w.readBuf.cap := kept.2
        exact ⟨same ▸ room.holds.sized, .inl (same.trans (looked.cap keep)), Nat.le_of_eq stop⟩
    · next accepted =>
      refine Leads.pure ⟨by decide, ticked.replace fun keep room => ?_⟩
      obtain ⟨stop, granted | kept⟩ := room.holds.doubles full small ensured
      · obtain ⟨-, twice, roomy⟩ := granted
        exact ⟨roomy, .inr (twice.trans (congrArg (2 * ·) (looked.cap keep))), Nat.le_of_eq stop⟩
      · exact absurd (not_not.mp accepted) kept.1

/-- Waiting for the rest of a message makes room for it. -/
theorem awaitMore_measured (calls : CallsRest k)
    (looked : Looked Buf.Loaded w) :
    Leads (awaitMore env k) w (fun rc w' => rc ≤ 0 ∧ Resting w') HadRoom := by
  apply Leads.get
  cases compacted : w.readBuf.compact with
  | error stop => exact looked.measured.hadRoom
  | ok buf =>
    apply Leads.of_run (lift_ok_bind w buf _)
    apply Leads.of_run (setReadBuf_bind w buf _)
    have packed : Looked Buf.Packed { w with readBuf := buf } := by
      constructor
      · apply looked.measured.replace
        intro keep room
        obtain ⟨packed, cap, stop⟩ := room.holds.compacted compacted
        exact ⟨packed, .inl (cap.trans (looked.cap keep)), stop⟩
      · intro keep
        have held := (looked.measured.room keep).holds
        exact (held.compacted compacted).2.1.trans (looked.cap keep)
    split
    · next full =>
      split
      · exact rejectReturn_measured (packed.measured.weaken fun _ held => held.sized) calls _
      · next below => exact grow_measured calls packed full (Nat.not_le.mp (not_or.mp below).2)
    · next space =>
      have roomy : Resting { w with readBuf := buf } :=
        packed.measured.replace fun keep room =>
          ⟨⟨room.holds.sized, room.holds.front, by omega⟩, room.near, Nat.le_refl _⟩
      exact Leads.pure ⟨by decide, roomy⟩

/-- The state after the reader looked at its buffer. -/
def World.scanning (w : World) : World :=
  { w with log := w.log ++ [.scanned w.readBuf.pos w.readBuf.end w.readBuf.cap] }

/-- The reader looks at a loaded buffer. -/
theorem Measured.scanning (measured : Measured Buf.Loaded w) : Looked Buf.Loaded w.scanning := by
  have last : lastCapacity w.scanning.log = w.readBuf.cap := lastCapacity_concat rfl
  refine ⟨⟨measured.formed, fun keep => ?_⟩, fun _ => last.symm⟩
  have room := measured.room keep.left
  have ⟨sized, start, stop⟩ := room.holds
  have unclosed : ∀ event ∈ [Event.scanned w.readBuf.pos w.readBuf.end w.readBuf.cap],
      event.isClosed = false := List.forall_mem_singleton.mpr rfl
  have kept : receivedBytes w.scanning.log = receivedBytes w.log :=
    (receivedBytes_append unclosed).trans (List.append_nil _)
  constructor
  · exact room.holds
  · exact .inl last.symm
  · rw [kept]
    exact room.received
  · refine throughout_concat.mpr ⟨room.roomed, ?_, start, stop⟩
    intro cap some
    cases Option.mem_some.mp some
    exact ⟨sized, room.near⟩
  · exact throughout_concat.mpr ⟨room.fresh, start, Nat.le_of_lt stop, room.received⟩

/-- What has just been looked at may be dispatched. -/
theorem Looked.heard (looked : Looked Buf.Loaded w) {earlier : List Event} {cap : Nat}
    (log : w.log = earlier ++ [.scanned w.readBuf.pos w.readBuf.end cap])
    (pending : w.readBuf.pos ≠ w.readBuf.end) (msg : ServerMsg) :
    Holding w.readBuf { w with log := w.log ++ [.handled msg] } := by
  refine ⟨looked.measured.formed, fun keep => ?_⟩
  have room := looked.measured.room keep.left
  have loaded := room.holds
  have unclosed : ∀ event ∈ [Event.handled msg], event.isClosed = false :=
    List.forall_mem_singleton.mpr rfl
  have kept : receivedBytes (w.log ++ [.handled msg]) = receivedBytes w.log :=
    (receivedBytes_append unclosed).trans (List.append_nil _)
  have last : lastCapacity (w.log ++ [.handled msg]) = lastCapacity w.log := lastCapacity_keep rfl
  constructor
  · constructor
    · exact ⟨rfl, loaded⟩
    · show w.readBuf.cap = lastCapacity (w.log ++ [.handled msg]) ∨ _
      rw [last]
      exact room.near
    · show w.readBuf.end ≤ (receivedBytes (w.log ++ [.handled msg])).length
      rw [kept]
      exact room.received
    · exact throughout_concat.mpr ⟨room.roomed,
        fun cap some => absurd some (Option.not_mem_none cap), trivial⟩
    · refine throughout_concat.mpr ⟨room.fresh, w.readBuf.pos, w.readBuf.end, cap, ?_,
        Nat.lt_of_le_of_ne loaded.start pending⟩
      rw [log, History.since_unmarked Event.isClosed rfl]
      exact List.mem_append_right _ List.mem_cons_self
  · show Handling (w.log ++ [.handled msg]) = true
    unfold Handling
    rw [History.since_unmarked Event.pauses rfl, List.any_append]
    exact Bool.or_true _

/-- What one round of the reader leads to: rest, or a message that may be skipped. -/
def Rounded (rc : Int) (w : World) : Prop :=
  if rc ≤ 0 then Resting w
  else Measured (fun b => Buf.Loaded { b with pos := b.pos + rc.toNat }) w

/-- A message that was dispatched may be skipped, and a refused one closes the connection. -/
theorem dispatch_measured (calls : CallsRest k) (looked : Looked Buf.Loaded w)
    {earlier : List Event} {cap : Nat}
    (log : w.log = earlier ++ [.scanned w.readBuf.pos w.readBuf.end cap])
    (pending : w.readBuf.pos ≠ w.readBuf.end) {parsed : Parsed}
    (inside : parsed.rc ≤ Word.unsigned ((w.readBuf.end : Int) - w.readBuf.pos))
    (accepted : ¬parsed.rc ≤ 0) :
    Leads (do
      if ← dispatch env k parsed then return parsed.rc
      else return ngxError) w Rounded HadRoom := by
  have refuses {w₁ : World} (reason : Reason) (holding : Holding w.readBuf w₁) :
      Leads (closeConnection env k reason true)
        { w₁ with log := w₁.log ++ [.rejected w₁.nc.state] } (fun _ => Resting) HadRoom := by
    have standing : Standing w₁ := holding.measured fun loaded => loaded.sized
    exact standing.refused calls reason
  apply Leads.bind ((holding_listens env w.readBuf).dispatch (calls.holding w.readBuf) parsed
    (looked.heard log pending (serverMsg parsed)) refuses)
  intro went w₁ answered
  cases went with
  | true =>
    have holding : Holding w.readBuf w₁ := answered
    refine Leads.pure ?_
    unfold Rounded
    rw [if_neg accepted]
    refine holding.measured fun loaded => loaded.skip ?_
    have limit : w.readBuf.cap ≤ maxMessageSize := loaded.sized.2
    have start := loaded.start
    have stop := loaded.room
    simp only [maxMessageSize] at limit
    have exact : Word.unsigned ((w.readBuf.end : Int) - w.readBuf.pos) =
        w.readBuf.end - w.readBuf.pos := by
      unfold Word.unsigned
      omega
    omega
  | false => exact Leads.pure answered

/-- One round of the reader rests or may skip a message. -/
theorem processBufferMsg_measured (calls : CallsRest k) (measured : Measured Buf.Loaded w) :
    Leads (processBufferMsg env k) w Rounded HadRoom := by
  have looked := measured.scanning
  have rests {program : Comm Int} {w₁ : World} (leads : Leads program w₁
      (fun rc w' => rc ≤ 0 ∧ Resting w') HadRoom) : Leads program w₁ Rounded HadRoom :=
    leads.weaken (fun rc w' rested => by unfold Rounded; rw [if_pos rested.1]; exact rested.2)
      fun _ => id
  apply Leads.get
  apply Leads.of_run (emit_bind w (.scanned w.readBuf.pos w.readBuf.end w.readBuf.cap) _)
  split
  · next drained =>
    have reset : w.readBuf.compact = .ok w.readBuf.reset := if_pos drained
    rw [reset]
    apply rests
    apply Leads.of_run (lift_ok_bind _ w.readBuf.reset _)
    apply Leads.of_run (setReadBuf_bind _ w.readBuf.reset _)
    exact Leads.pure ⟨by decide, looked.measured.replace fun keep room =>
      ⟨Buf.roomy_reset room.holds.sized, room.near, Nat.zero_le _⟩⟩
  · next pending =>
    dsimp only
    cases run : parse ⟨w.readBuf.buf.read w.readBuf.pos (w.readBuf.cap - w.readBuf.pos),
        Word.unsigned ((w.readBuf.end : Int) - w.readBuf.pos)⟩ with
    | error stop => exact looked.measured.hadRoom
    | ok parsed =>
      apply Leads.of_run (lift_ok_bind _ parsed _)
      apply Leads.of_run (setReadBuf_bind _ _ _)
      have within := parse_within _ parsed run
      have noted : Looked Buf.Loaded { w.scanning with readBuf :=
          { w.readBuf with buf := w.readBuf.buf.write w.readBuf.pos parsed.data } } := by
        refine ⟨looked.measured.replace fun keep room => ?_, looked.cap⟩
        exact ⟨⟨room.holds.sized, room.holds.start, room.holds.room⟩, room.near, Nat.le_refl _⟩
      split
      · apply rests
        split
        · exact awaitMore_measured calls noted
        · exact rejectReturn_measured (noted.measured.weaken fun _ loaded => loaded.sized) calls _
      · next accepted =>
        exact dispatch_measured calls noted rfl pending within accepted

/-- The loop over the messages of a loaded buffer ends with a resting reader. -/
theorem processBuffer_measured (calls : CallsRest k) (measured : Measured Buf.Loaded w) :
    Leads (processBuffer env k) w (fun _ => Resting) HadRoom := by
  apply Leads.get
  apply Leads.repeatUntil (Measured Buf.Loaded)
  · exact fun _ loaded => loaded.hadRoom
  · intro w₁ loaded
    apply Leads.bind (processBufferMsg_measured calls loaded)
    intro rc w₂ rounded
    unfold Rounded at rounded
    split
    · next done =>
      rw [if_pos done] at rounded
      exact Leads.pure rounded
    · next more =>
      rw [if_neg more] at rounded
      apply Leads.of_run (Program.modify_bind _ _ w₂)
      exact Leads.pure ⟨rounded.formed, fun keep =>
        have room := rounded.room keep
        ⟨room.holds, room.near, room.received, room.roomed, room.fresh⟩⟩
  · exact measured

/-- Asking for bytes: there is room for at least one. -/
theorem Measured.asking (resting : Resting w) : Resting { w with
    log := w.log ++ [.recv w.readBuf.pos w.readBuf.end w.readBuf.cap] } := by
  refine ⟨resting.formed, fun keep => ?_⟩
  have room := resting.room keep.left
  have ⟨sized, front, space⟩ := room.holds
  have last : lastCapacity (w.log ++ [.recv w.readBuf.pos w.readBuf.end w.readBuf.cap]) =
      w.readBuf.cap := lastCapacity_concat rfl
  have unclosed : ∀ event ∈ [Event.recv w.readBuf.pos w.readBuf.end w.readBuf.cap],
      event.isClosed = false := List.forall_mem_singleton.mpr rfl
  have kept : receivedBytes (w.log ++ [.recv w.readBuf.pos w.readBuf.end w.readBuf.cap]) =
      receivedBytes w.log := (receivedBytes_append unclosed).trans (List.append_nil _)
  constructor
  · exact room.holds
  · exact .inl last.symm
  · show w.readBuf.end ≤ (receivedBytes (w.log ++ _)).length
    rw [kept]
    exact room.received
  · refine throughout_concat.mpr ⟨room.roomed, ?_, front, by omega⟩
    intro cap some
    cases Option.mem_some.mp some
    exact ⟨sized, room.near⟩
  · exact throughout_concat.mpr ⟨room.fresh, trivial⟩

/-- Bytes that fit the room are received into it. -/
theorem Measured.receiving (resting : Resting w) {bytes : List UInt8}
    (fits : bytes.length ≤ w.readBuf.cap - w.readBuf.end - 1) : Measured Buf.Loaded { w with
      readBuf := w.readBuf.push bytes
      log := w.log ++ [.received bytes] } := by
  refine ⟨resting.formed, fun keep => ?_⟩
  have room := resting.room keep.left
  have unclosed : ∀ event ∈ [Event.received bytes], event.isClosed = false :=
    List.forall_mem_singleton.mpr rfl
  have grown : receivedBytes (w.log ++ [.received bytes]) = receivedBytes w.log ++ bytes :=
    (receivedBytes_append unclosed).trans (congrArg (_ ++ ·) (List.append_nil _))
  have last : lastCapacity (w.log ++ [.received bytes]) = lastCapacity w.log :=
    lastCapacity_keep rfl
  constructor
  · exact room.holds.push fits
  · show w.readBuf.cap = lastCapacity (w.log ++ [.received bytes]) ∨ _
    rw [last]
    exact room.near
  · show w.readBuf.end + bytes.length ≤ (receivedBytes (w.log ++ [.received bytes])).length
    rw [grown, List.length_append]
    exact Nat.add_le_add_right room.received _
  · exact throughout_concat.mpr ⟨room.roomed,
      fun cap some => absurd some (Option.not_mem_none cap), trivial⟩
  · exact throughout_concat.mpr ⟨room.fresh, trivial⟩

/-- Closing the connection ends the reader. -/
theorem closeReturn_measured (calls : CallsRest k) (resting : Resting w) (reason : Reason) :
    Leads (do
      closeConnection env k reason true
      return false) w (fun _ => Resting) HadRoom := by
  apply Leads.bind ((resting_endures env).closeConnection calls.resting resting reason)
  intro _ w₁ resting₁
  exact Leads.pure resting₁

/-- Data that fits is taken in and parsed with room for the next byte. -/
theorem receiveData_measured (calls : CallsRest k) (resting : Resting w) {bytes : List UInt8}
    (fits : bytes.length ≤ w.readBuf.cap - w.readBuf.end - 1) :
    Leads (receiveData env k bytes) w (fun _ => Resting) HadRoom := by
  apply Leads.of_run (Program.bind_ok (checkConnected_run env w))
  have checked : Resting (w.checked env) := resting.silent resting.formed rfl rfl
  have received : Leads (receiveBytes bytes) (w.checked env) (fun _ => Measured Buf.Loaded)
      HadRoom := Leads.of_ok rfl (checked.receiving fits)
  apply Leads.bind received
  intro _ w₁ loaded
  apply Leads.bind (processBuffer_measured calls loaded)
  intro rc w₂ resting₂
  split
  · exact closeReturn_measured calls resting₂ _
  · exact Leads.pure resting₂

/-- A receive loop that found nothing more. -/
theorem receiveAgain_measured (calls : CallsRest k) (resting : Resting w) :
    Leads (do
      if ← ask env.handleReadEvent then return true
      else
        closeConnection env k .internalError true
        return false) w (fun _ => Resting) HadRoom := by
  apply Leads.bind ((resting_endures env).leads resting (ask_beside _ w))
  rintro handled w₁ ⟨resting₁, -⟩
  split
  · exact Leads.pure resting₁
  · exact closeReturn_measured calls resting₁ _

/-- What `recv` returns fits the room it was offered. -/
theorem recvBytes_measured (resting : Resting w) (found : Recv) :
    Leads (recvBytes found) w (fun result w₁ => Resting w₁ ∧
      ∀ bytes, result = .bytes bytes →
        bytes.length ≤ w₁.readBuf.cap - w₁.readBuf.end - 1) HadRoom := by
  have asked := resting.asking
  rw [← recvBytes_last found w] at asked
  apply Leads.intro
  · intro result w₁ run
    have last := recvBytes_last found w
    rw [run] at asked last
    refine ⟨asked, ?_⟩
    rintro bytes rfl
    have fits := recvBytes_fits run
    have same := congrArg World.readBuf last
    dsimp only at same
    rw [same]
    exact fits
  · intro stop w₁ run
    rw [run] at asked
    exact asked.hadRoom

/-- The loop over `recv` has room whenever it asks. -/
theorem receive_measured (calls : CallsRest k) (resting : Resting w) (results : List Recv) :
    Leads (receive env k results) w (fun _ => Resting) HadRoom := by
  induction results generalizing w with
  | nil =>
    apply Leads.bind (recvBytes_measured resting _)
    rintro _ w₁ ⟨resting₁, -⟩
    exact receiveAgain_measured calls resting₁
  | cons found rest ih =>
    apply Leads.bind (recvBytes_measured resting found)
    rintro result w₁ ⟨resting₁, fits⟩
    cases result with
    | again => exact receiveAgain_measured calls resting₁
    | bytes bytes =>
      apply Leads.bind (receiveData_measured calls resting₁ (fits bytes rfl))
      intro went w₂ resting₂
      cases went with
      | true => exact ih resting₂
      | false => exact Leads.pure resting₂
    | eof => exact closeReturn_measured calls resting₁ _
    | error => exact closeReturn_measured calls resting₁ _

/-- Reading from the connection has room whenever it asks. -/
theorem readFromNats_measured (calls : CallsRest k) (resting : Resting w) (results : List Recv) :
    Leads (readFromNats env k results) w (fun _ => Resting) HadRoom := by
  apply Leads.get
  apply Leads.bind (receive_measured calls resting results)
  intro went w₁ resting₁
  split
  · apply Leads.get
    split
    · exact (resting_endures env).flush calls.resting resting₁
    · exact Leads.pure resting₁
  · exact Leads.pure resting₁

/-- The reader rests at the start. -/
theorem start_resting (read write : Memory UInt8) : Resting (.start read write) :=
  ⟨start_formed read write, fun _ =>
    ⟨⟨sized_init, rfl, show 0 + 1 < bufInitSize by decide⟩, .inl rfl, Nat.le_refl 0, throughout_nil,
      throughout_nil⟩⟩

/-- In every run whose handlers keep the connection, the reader had room. -/
theorem reached_hadRoom (env : Env) (depth : Nat) (events : List Step)
    (read write : Memory UInt8) : HadRoom (reached env depth events read write) := by
  have rests := (resting_endures env).run depth
    (fun results resting => readFromNats_measured (calls_rest env depth) resting results)
    (start_resting read write) events
  exact (rests.weaken (fun _ _ resting => resting.hadRoom) fun _ => id).last

/-- The read buffer always has room for the next `c->recv`. -/
theorem read_room (env : Env) (depth : Nat) (events : List Step) (read write : Memory UInt8)
    (keep : Throughout HandlersKeep (reached env depth events read write).log) :
    Throughout Roomed (reached env depth events read write).log :=
  (reached_hadRoom env depth events read write keep).1

/-- A connection that greeted the module. -/
theorem read_room_greeted : Throughout Roomed greeted.log :=
  read_room granting 2 [.init, .readable [.bytes greeting]] (fun _ => 0) (fun _ => 0)
    (by decide +kernel)

/-- While its handlers keep the connection, the reader looks at a valid buffer with nothing left of
a closed connection. -/
theorem reader_reentrant (env : Env) (depth : Nat) (events : List Step) (read write : Memory UInt8)
    (keep : Throughout HandlersKeep (reached env depth events read write).log) :
    Throughout Fresh (reached env depth events read write).log :=
  (reached_hadRoom env depth events read write keep).2

/-- A client that publishes as soon as it is connected, and a socket that fails at a tick. -/
def publishing (failing : Nat) : Env := { granting with
  send := fun tick => if tick = failing then .error else .sent maxMessageSize
  script := fun _ call => match call with
    | .connected _ => [.publish (some (ascii "a")) none (ascii "b") 1]
    | _ => [] }

/-- A client is registered, and the server greets it. -/
def registeredAndGreeted : List Step :=
  [.init, .api (.addClient ⟨false⟩), .readable [.bytes greeting]]

/-- The client publishes from its callback on a socket that does not fail. -/
theorem reader_reentrant_publishing :
    Throughout Fresh (reached (publishing 0) 3 registeredAndGreeted (fun _ => 0) fun _ => 0).log :=
  reader_reentrant (publishing 0) 3 registeredAndGreeted (fun _ => 0) (fun _ => 0)
    (by decide +kernel)

/-- The socket fails when the client publishes from its callback: the connection is closed, which
empties the read buffer, and then the six bytes of the PONG are skipped in it. -/
theorem reader_overrun : ¬∀ (env : Env) (depth : Nat) (events : List Step)
    (read write : Memory UInt8), Throughout Fresh (reached env depth events read write).log := by
  intro claim
  have looked : .scanned 6 0 4096 ∈
      (reached (publishing 12) 3 registeredAndGreeted (fun _ => 0) fun _ => 0).log := by
    decide +kernel
  obtain ⟨before, after, log⟩ := List.append_of_mem looked
  obtain ⟨start, -⟩ := claim (publishing 12) 3 registeredAndGreeted (fun _ => 0) (fun _ => 0)
    before (.scanned 6 0 4096) after log
  exact absurd start (by decide)

end NgxNats
