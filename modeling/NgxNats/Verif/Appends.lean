import NgxNats.Model.Client
import NgxNats.Verif.Buffers

/-!
# Appending to the write buffer

`ngx_nats_add_message` seen on the buffer alone. A refusal leaves the pending bytes; a success adds
the message to them, unless a partly sent buffer had to grow.
-/
namespace NgxNats

namespace Buf

/-- What `ngx_nats_add_message` does to the buffer: make room, check the copy, and copy. -/
def add (alloc : Alloc) (b : Buf) (message : List UInt8) (size : Nat) : Except Fault (Int × Buf) :=
  match b.ensure alloc size true with
  | .error stop => .error stop
  | .ok (rc, made) =>
    if rc ≠ ngxOk then .ok (rc, made)
    else if message.length < size ∨ made.cap < made.end + size then .error .badAccess
    else .ok (ngxOk, made.push (message.take size))

variable {alloc : Alloc} {b b' : Buf} {message : List UInt8} {size : Nat} {rc : Int}

/-- An append is answered, and the buffer stays well-formed. -/
theorem WellFormed.add (formed : b.WellFormed) (run : b.add alloc message size = .ok (rc, b')) :
    (rc = ngxOk ∨ rc = ngxError) ∧ b'.WellFormed := by
  unfold Buf.add at run
  split at run
  · cases run
  · next rc made ensured =>
    obtain ⟨answered, valid, larger, -⟩ := ensure_ensured formed.valid ensured
    split at run
    · cases run
      exact ⟨answered, valid, Nat.le_trans formed.least larger⟩
    · split at run
      · cases run
      · next room =>
        cases run
        simp only [not_or, Nat.not_lt] at room
        have length := List.length_take_of_le room.1
        exact ⟨.inl rfl, valid.push (by omega), Nat.le_trans formed.least larger⟩

/-- A refused append keeps the pending bytes. -/
theorem add_refused (valid : b.Valid) (run : b.add alloc message size = .ok (ngxError, b')) :
    b'.pending = b.pending := by
  unfold Buf.add at run
  split at run
  · cases run
  · next rc made ensured =>
    split at run
    · cases run
      exact ((ensure_ensured valid ensured).refused rfl).1
    · split at run
      · cases run
      · cases run

/-- A successful append makes as many more bytes pending as the message has. -/
theorem add_length (valid : b.Valid) (run : b.add alloc message size = .ok (ngxOk, b')) :
    size ≤ message.length ∧ b'.pending.length = b.pending.length + size := by
  unfold Buf.add at run
  split at run
  · cases run
  · next rc made ensured =>
    obtain ⟨-, made_valid, -, count, -⟩ := ensure_ensured valid ensured
    split at run
    · next refused =>
      cases run
      exact (refused rfl).elim
    · split at run
      · cases run
      · next room =>
        cases run
        simp only [not_or, Nat.not_lt] at room
        rw [pending_push _ made_valid, List.length_append, List.length_take_of_le room.1,
          length_pending, length_pending, count]
        exact ⟨room.1, rfl⟩

/-- The capacity that the doubling loop of `ngx_nats_buf_ensure` asks for. -/
def doubled (b : Buf) (size : Nat) : Except Fault Nat :=
  doubleUntil ((b.end - b.pos + size) % 2 ^ 64) 64 (b.cap * 2 % 2 ^ 64)

/-- An append that does not grow a partly sent buffer: there is room, the buffer starts at the
front or is drained, or growing is refused. -/
def Smooth (alloc : Alloc) (b : Buf) (size : Nat) : Prop :=
  b.end - b.pos + size ≤ b.cap ∨ b.pos = 0 ∨ b.pos = b.end ∨ maxMessageSize ≤ b.cap ∨
    ∀ ns, b.doubled size = .ok ns → alloc ns = none

/-- A buffer that starts at the front or is drained starts at the front when it is settled. -/
theorem settled_front (front : b.pos = 0 ∨ b.pos = b.end) : b.settled.pos = 0 := by
  unfold settled
  split
  · rfl
  · next kept =>
    by_contra positive
    rcases front with zero | drained
    · exact positive zero
    · exact kept ⟨drained, positive⟩

/-- Growing makes room only with a granted block, and keeps the pending bytes of a buffer that
starts at the front. -/
theorem grow_granted (run : b.grow alloc size = .ok (ngxOk, b')) : b.cap < maxMessageSize ∧
    ∃ ns bnew, b.doubled size = .ok ns ∧ alloc ns = some bnew ∧ b' = b.realloc bnew ns := by
  unfold grow at run
  split at run
  · cases run
  · next small =>
    refine ⟨Nat.not_le.mp small, ?_⟩
    simp only [bind, Except.bind] at run
    split at run
    · cases run
    · next ns ended =>
      cases granted : alloc ns with
      | none =>
        rw [granted] at run
        cases run
      | some bnew =>
        rw [granted] at run
        cases run
        exact ⟨ns, bnew, ended, granted, rfl⟩

/-- Settling a buffer does not change what the doubling loop asks for. -/
theorem doubled_settled (b : Buf) (size : Nat) : b.settled.doubled size = b.doubled size := by
  rw [doubled, doubled, settled_room, cap_settled]

/-- A smooth append adds the message to the pending bytes. -/
theorem add_smooth (valid : b.Valid) (smooth : Smooth alloc b size)
    (run : b.add alloc message size = .ok (ngxOk, b')) :
    b'.pending = b.pending ++ message.take size := by
  have kept : ∀ made, b.ensure alloc size true = .ok (ngxOk, made) →
      made.pending = b.pending := by
    intro made ensured
    by_cases room : b.end - b.pos + size ≤ b.cap
    · obtain ⟨found, same, pending, -⟩ := ensure_room alloc valid room
      rw [ensured] at same
      cases same
      exact pending
    · rw [ensure_grow alloc valid true (by omega)] at ensured
      obtain ⟨small, ns, bnew, ended, granted, rfl⟩ := grow_granted ensured
      rw [cap_settled] at small
      rw [doubled_settled] at ended
      have front : b.settled.pos = 0 := by
        rcases smooth with fits | front | drained | large | refused
        · exact (room fits).elim
        · exact settled_front (.inl front)
        · exact settled_front (.inr drained)
        · omega
        · rw [refused ns ended] at granted
          cases granted
      rw [pending_realloc front, pending_settled]
  unfold Buf.add at run
  split at run
  · cases run
  · next rc made ensured =>
    have made_valid := (ensure_ensured valid ensured).valid
    split at run
    · next refused =>
      cases run
      exact (refused rfl).elim
    · next answered =>
      simp only [ne_eq, Decidable.not_not] at answered
      subst answered
      split at run
      · cases run
      · cases run
        rw [pending_push _ made_valid, kept made ensured]

/-- An append of a readable message no longer than the buffer is answered. -/
theorem add_total (alloc : Alloc) (valid : b.Valid) (fits : size ≤ b.cap)
    (readable : size ≤ message.length) : ∃ rc b', b.add alloc message size = .ok (rc, b') := by
  obtain ⟨rc, made, ensured, room⟩ := ensure_total alloc valid fits
  unfold Buf.add
  rw [ensured]
  dsimp only
  split
  · exact ⟨rc, made, rfl⟩
  · next answered =>
    simp only [ne_eq, Decidable.not_not] at answered
    have inside := room answered
    rw [if_neg (by omega)]
    exact ⟨_, _, rfl⟩

end Buf

/-- The event of an append. -/
def appendEvent (rc : Int) (message : List UInt8) (size : Nat) : Event :=
  if rc = ngxOk then .queued (message.take size) else .refused size

/-- The state after an append that was answered. -/
def World.appended (w : World) (rc : Int) (b : Buf) (message : List UInt8) (size : Nat) : World :=
  { w with
    clock := w.clock + 1
    writeBuf := b
    log := w.log ++ [appendEvent rc message size] }

/-- An append is the append on the buffer. -/
theorem appendBytes_run (env : Env) (message : List UInt8) (size : Nat) (w : World) :
    appendBytes env message size w =
      match w.writeBuf.add (env.alloc w.clock) message size with
      | .ok (rc, b) => (.ok rc, w.appended rc b message size)
      | .error stop => (.error stop, { w with clock := w.clock + 1 }) := by
  unfold appendBytes Buf.add
  simp only [ask_bind, Program.get_bind]
  cases ensured : w.writeBuf.ensure (env.alloc w.clock) size true with
  | error stop => rfl
  | ok answer =>
    obtain ⟨rc, made⟩ := answer
    simp only [lift_ok_bind]
    by_cases refused : rc = ngxOk
    · simp only [refused, ne_eq, not_true_eq_false, ↓reduceIte]
      by_cases outside : message.length < size ∨ made.cap < made.end + size
      · simp only [outside, ↓reduceIte, Program.fault_run]
      · simp only [outside, ↓reduceIte, record_bind, Program.pure_run, World.appended, appendEvent]
    · simp only [refused, ne_eq, not_false_eq_true, ↓reduceIte, record_bind, Program.pure_run,
        World.appended, appendEvent]

/-- Appending a message with a size is appending its bytes. -/
theorem addMessage_sized (env : Env) (message : List UInt8) {size : Nat} (positive : 0 < size)
    (w : World) : addMessage env message size w = appendBytes env message size w := by
  rw [addMessage, if_neg (by omega)]

/-- The number of bytes `ngx_nats_add_message` appends: size 0 stands for the length of a string. -/
def messageSize (message : List UInt8) (size : Nat) : Nat :=
  if size = 0 then strlen message else size

/-- What `ngx_nats_add_message` does to the clock and the buffer. -/
def Buf.addMessage (alloc : Nat → Alloc) (tick : Nat) (b : Buf) (message : List UInt8)
    (size : Nat) : Except Fault (Int × Nat × Buf) :=
  if size = 0 ∧ 0 ∉ message then .error .badAccess
  else if messageSize message size = 0 then .ok (ngxOk, tick, b)
  else
    match b.add (alloc tick) message (messageSize message size) with
    | .ok (rc, b') => .ok (rc, tick + 1, b')
    | .error stop => .error stop

/-- The bytes an event reports as queued. -/
def Event.queuedBytes : Event → List UInt8
  | .queued bytes => bytes
  | _ => []

/-- The bytes that a log reports as queued, in order. -/
def queuedBytes (log : List Event) : List UInt8 := log.flatMap Event.queuedBytes

/-- The state after `ngx_nats_add_message`: the clock, the buffer and the log changed. -/
structure World.Added (w : World) (tick : Nat) (b : Buf) (bytes : List UInt8) (w' : World) :
    Prop where
  clock : w'.clock = tick
  writeBuf : w'.writeBuf = b
  subs : w'.subs = w.subs
  log : queuedBytes w'.log = queuedBytes w.log ++ bytes

/-- `ngx_nats_add_message` by the number of bytes it appends. -/
theorem addMessage_eq (env : Env) (message : List UInt8) (size : Nat) :
    addMessage env message size =
      if size = 0 ∧ 0 ∉ message then Program.fault .badAccess
      else if messageSize message size = 0 then pure ngxOk
      else appendBytes env message (messageSize message size) := by
  unfold addMessage messageSize
  by_cases zero : size = 0
  · by_cases unterminated : 0 ∉ message
    · rw [if_pos zero, if_pos unterminated, if_pos ⟨zero, unterminated⟩]
    · have terminated : ¬(size = 0 ∧ 0 ∉ message) := fun both => unterminated both.2
      rw [if_neg terminated, if_pos zero, if_neg unterminated, if_pos zero]
  · have sized : ¬(size = 0 ∧ 0 ∉ message) := fun both => zero both.1
    rw [if_neg sized, if_neg zero, if_neg zero, if_neg zero]

/-- `ngx_nats_add_message` returns what it does to the buffer. -/
theorem addMessage_returns {message : List UInt8} {size : Nat} {w : World} {rc : Int} {tick : Nat}
    {b : Buf} {env : Env}
    (run : w.writeBuf.addMessage env.alloc w.clock message size = .ok (rc, tick, b)) :
    ∃ w', addMessage env message size w = (.ok rc, w') ∧ w.Added tick b
      (if rc = ngxOk then message.take (messageSize message size) else []) w' := by
  rw [addMessage_eq]
  unfold Buf.addMessage at run
  by_cases unterminated : size = 0 ∧ 0 ∉ message
  · rw [if_pos unterminated] at run
    cases run
  · rw [if_neg unterminated] at run ⊢
    by_cases empty : messageSize message size = 0
    · rw [if_pos empty] at run ⊢
      cases run
      exact ⟨w, rfl, rfl, rfl, rfl, by rw [if_pos rfl, empty, List.take_zero, List.append_nil]⟩
    · rw [if_neg empty] at run ⊢
      split at run
      · next added =>
        cases run
        refine ⟨w.appended rc b message (messageSize message size), ?_, rfl, rfl, rfl, ?_⟩
        · rw [appendBytes_run, added]
        · simp only [World.appended, appendEvent, queuedBytes, List.flatMap_append]
          split
          · simp [Event.queuedBytes]
          · simp [Event.queuedBytes]
      · cases run

/-- `ngx_nats_add_message` stops where the append on the buffer does. -/
theorem addMessage_stops {message : List UInt8} {size : Nat} {w : World} {stop : Fault} {env : Env}
    (run : w.writeBuf.addMessage env.alloc w.clock message size = .error stop) :
    ∃ w', addMessage env message size w = (.error stop, w') := by
  rw [addMessage_eq]
  unfold Buf.addMessage at run
  by_cases unterminated : size = 0 ∧ 0 ∉ message
  · rw [if_pos unterminated] at run ⊢
    cases run
    exact ⟨w, rfl⟩
  · rw [if_neg unterminated] at run ⊢
    by_cases empty : messageSize message size = 0
    · rw [if_pos empty] at run
      cases run
    · rw [if_neg empty] at run ⊢
      split at run
      · cases run
      · next failed =>
        cases run
        rw [appendBytes_run, failed]
        exact ⟨_, rfl⟩

/-- An append is answered, keeps the buffer well-formed, and when it is refused its pending
bytes. -/
theorem Buf.WellFormed.addMessage {alloc : Nat → Alloc} {tick tick' : Nat} {b b' : Buf}
    {message : List UInt8} {size : Nat} {rc : Int} (formed : b.WellFormed)
    (run : b.addMessage alloc tick message size = .ok (rc, tick', b')) :
    (rc = ngxOk ∨ rc = ngxError) ∧ b'.WellFormed ∧
      (rc = ngxError → b'.pending = b.pending) ∧
      (rc = ngxOk → b'.pending.length = b.pending.length + messageSize message size) := by
  unfold Buf.addMessage at run
  split at run
  · cases run
  · split at run
    · next empty =>
      cases run
      refine ⟨.inl rfl, formed, fun _ => rfl, fun _ => ?_⟩
      rw [empty, Nat.add_zero]
    · split at run
      · next added =>
        cases run
        obtain ⟨answered, kept⟩ := formed.add added
        refine ⟨answered, kept, ?_, ?_⟩
        · rintro rfl
          exact Buf.add_refused formed.valid added
        · rintro rfl
          exact (Buf.add_length formed.valid added).2
      · cases run

end NgxNats
