import NgxNats.Model.Basic

/-!
# Read and write buffers

`ngx_nats_buf_t` and the functions on it. The bytes between `pos` and `end` are pending; `cap`
is the allocated length. Sizes are naturals, reduced modulo `2^64` where the source computes
with `size_t` values that are not bounded by the capacity.
-/
namespace NgxNats

/-- `NGX_NATS_READ_BUF_INIT_SIZE` and `NGX_NATS_WRITE_BUF_INIT_SIZE` -/
def bufInitSize : Nat := 4096

/-- `NGX_NATS_MAX_MESSAGE_SIZE` -/
def maxMessageSize : Nat := 256 * 1024 * 1024

/-- `ngx_nats_buf_t` -/
structure Buf where
  buf : Memory UInt8
  pos : Nat
  «end» : Nat
  cap : Nat

/-- The outcome of `ngx_alloc`: no memory, or a block with arbitrary contents. -/
abbrev Alloc := Nat → Option (Memory UInt8)

namespace Buf

/-- The condition the header states for every buffer: `0 <= pos <= end <= cap`. -/
structure Valid (b : Buf) : Prop where
  pos_le : b.pos ≤ b.end
  end_le : b.end ≤ b.cap

/-- The bytes between `pos` and `end`. -/
def pending (b : Buf) : List UInt8 := b.buf.read b.pos (b.end - b.pos)

/-- The pending bytes are those between the two positions. -/
@[simp] theorem length_pending (b : Buf) : b.pending.length = b.end - b.pos := by simp [pending]

/-- `ngx_nats_buf_reset` -/
def reset (b : Buf) : Buf := { b with pos := 0, «end» := 0 }

/-- A buffer of the given capacity with nothing pending, as `ngx_nats_buf_create` makes it. -/
def create (size : Nat) (memory : Memory UInt8) : Buf := ⟨memory, 0, 0, size⟩

/-- `memmove` of the pending bytes to the front. -/
def slide (b : Buf) : Buf :=
  { b with buf := b.buf.write 0 b.pending, «end» := b.end - b.pos, pos := 0 }

/-- `ngx_nats_buf_compact`; with `pos` behind `end` the length of the move wraps around and the
move leaves the allocation. -/
def compact (b : Buf) : Except Fault Buf :=
  if b.pos = b.end then .ok b.reset
  else if 0 < b.pos then
    if b.end < b.pos then .error .badAccess else .ok b.slide
  else .ok b

/-- `while (ns < nt) ns <<= 1` in 64 bits. After 64 rounds every bit has been shifted out and
the loop goes on forever. -/
def doubleUntil (nt : Nat) : Nat → Nat → Except Fault Nat
  | 0, ns => if ns < nt then .error .endless else .ok ns
  | rounds + 1, ns =>
    if ns < nt then doubleUntil nt rounds (ns * 2 % 2 ^ 64) else .ok ns

/-- The buffer after the reallocation of `ngx_nats_buf_ensure`: the pending bytes are copied to
the front of the new block while `pos` and `end` keep their values. -/
def realloc (b : Buf) (bnew : Memory UInt8) (ns : Nat) : Buf :=
  { b with buf := bnew.write 0 b.pending, cap := ns }

/-- The part of `ngx_nats_buf_ensure` after the first attempts to find room. -/
def grow (alloc : Alloc) (b : Buf) (size : Nat) : Except Fault (Int × Buf) :=
  if maxMessageSize ≤ b.cap then .ok (ngxError, b)
  else do
    let n := b.end - b.pos
    let nt := (n + size) % 2 ^ 64
    let ns ← doubleUntil nt 64 (b.cap * 2 % 2 ^ 64)
    match alloc ns with
    | none => .ok (ngxError, b)
    | some bnew => .ok (ngxOk, b.realloc bnew ns)

/-- The first step of `ngx_nats_buf_ensure`: a drained buffer is reset. -/
def settled (b : Buf) : Buf := if b.pos = b.end ∧ b.pos ≠ 0 then b.reset else b

/-- The second step of `ngx_nats_buf_ensure`: move the pending bytes when that makes room. -/
def slideFor (b : Buf) (size : Nat) (compact : Bool) : Buf :=
  if compact ∧ 0 < b.pos ∧ size ≤ b.cap - b.end + b.pos then b.slide else b

/-- `ngx_nats_buf_ensure` -/
def ensure (alloc : Alloc) (b : Buf) (size : Nat) (compact : Bool) : Except Fault (Int × Buf) :=
  if size ≤ b.settled.cap - b.settled.end then .ok (ngxOk, b.settled)
  else if size ≤ (b.settled.slideFor size compact).cap - (b.settled.slideFor size compact).end then
    .ok (ngxOk, b.settled.slideFor size compact)
  else grow alloc (b.settled.slideFor size compact) size

/-- The copy of `message` to `buf + end` that follows a successful `ngx_nats_buf_ensure`. -/
def push (b : Buf) (message : List UInt8) : Buf :=
  { b with buf := b.buf.write b.end message, «end» := b.end + message.length }

variable {b : Buf}

/-- A reset buffer has no pending bytes. -/
@[simp] theorem pending_reset (b : Buf) : b.reset.pending = [] := by simp [reset, pending]

/-- A reset buffer is valid. -/
theorem valid_reset (b : Buf) : b.reset.Valid := ⟨Nat.le_refl 0, Nat.zero_le _⟩

/-- Moving the pending bytes to the front keeps them. -/
@[simp] theorem pending_slide (b : Buf) : b.slide.pending = b.pending := by
  have kept := Memory.read_write_self b.buf 0 b.pending
  rw [length_pending] at kept
  simpa [slide, pending] using kept

/-- Moving the pending bytes to the front keeps a buffer valid. -/
theorem Valid.slide (valid : b.Valid) : b.slide.Valid := by
  obtain ⟨start, stop⟩ := valid
  exact ⟨Nat.zero_le _, by simp only [Buf.slide]; omega⟩

/-- A drained buffer has nothing pending. -/
theorem pending_of_drained (drained : b.pos = b.end) : b.pending = [] := by
  simp [pending, drained]

/-- Adding bytes at the end adds them to what is pending. -/
theorem pending_push (message : List UInt8) (valid : b.Valid) :
    (b.push message).pending = b.pending ++ message := by
  obtain ⟨count, stop⟩ := Nat.exists_eq_add_of_le valid.pos_le
  simp only [push, pending, stop, Nat.add_assoc, Nat.add_sub_cancel_left]
  exact Memory.read_write_after b.buf b.pos count message

/-- Adding bytes that fit keeps a buffer valid. -/
theorem Valid.push (valid : b.Valid) {message : List UInt8}
    (fits : b.end + message.length ≤ b.cap) : (b.push message).Valid :=
  ⟨Nat.le_trans valid.pos_le (Nat.le_add_right _ _), fits⟩

/-- Compaction of a valid buffer succeeds, keeps the pending bytes and leaves them at the
front. -/
theorem compact_valid (valid : b.Valid) : ∃ b', b.compact = .ok b' ∧ b'.pending = b.pending ∧
    b'.pos = 0 ∧ b'.end = b.end - b.pos ∧ b'.cap = b.cap ∧ b'.Valid := by
  unfold compact
  by_cases drained : b.pos = b.end
  · rw [if_pos drained]
    exact ⟨b.reset, rfl, by rw [pending_reset, pending_of_drained drained], rfl,
      by simp [reset, drained], rfl, valid_reset b⟩
  · rw [if_neg drained]
    by_cases front : 0 < b.pos
    · rw [if_pos front, if_neg (Nat.not_lt.mpr valid.pos_le)]
      exact ⟨b.slide, rfl, pending_slide b, rfl, rfl, rfl, valid.slide⟩
    · rw [if_neg front]
      have zero : b.pos = 0 := by omega
      exact ⟨b, rfl, rfl, zero, by simp [zero], rfl, valid⟩

/-- The doubled capacity covers the need whenever the loop ends. -/
theorem doubleUntil_covers {nt : Nat} : ∀ {rounds ns result : Nat},
    doubleUntil nt rounds ns = .ok result → nt ≤ result
  | 0, ns, result, ended => by
    simp only [doubleUntil] at ended
    split at ended
    · cases ended
    · cases ended
      omega
  | rounds + 1, ns, result, ended => by
    simp only [doubleUntil] at ended
    split at ended
    · exact doubleUntil_covers ended
    · cases ended
      omega

/-- A need that the first doubling covers is met by it. -/
theorem doubleUntil_done {nt ns : Nat} (covered : nt ≤ ns) (rounds : Nat) :
    doubleUntil nt rounds ns = .ok ns := by
  cases rounds <;> simp [doubleUntil, Nat.not_lt.mpr covered]

/-- Settling a buffer keeps its block. -/
@[simp] theorem cap_settled (b : Buf) : b.settled.cap = b.cap := by
  unfold settled
  split <;> rfl

/-- Settling a buffer keeps its pending bytes. -/
@[simp] theorem pending_settled (b : Buf) : b.settled.pending = b.pending := by
  unfold settled
  split
  · next drained => rw [pending_reset, pending_of_drained drained.1]
  · rfl

/-- Resetting a drained buffer keeps the number of pending bytes. -/
theorem settled_room (b : Buf) : b.settled.end - b.settled.pos = b.end - b.pos := by
  rw [← length_pending, ← length_pending, pending_settled]

/-- A settled buffer has its positions inside the block, as before. -/
theorem Valid.settled (valid : b.Valid) : b.settled.Valid := by
  unfold Buf.settled
  split
  · exact valid_reset b
  · exact valid

/-- With room for the request, `ngx_nats_buf_ensure` finds it without touching the pending
bytes or the capacity. -/
theorem ensure_room (alloc : Alloc) (valid : b.Valid) {size : Nat}
    (room : b.end - b.pos + size ≤ b.cap) : ∃ b', b.ensure alloc size true = .ok (ngxOk, b') ∧
      b'.pending = b.pending ∧ b'.cap = b.cap ∧ b'.Valid ∧ b'.end + size ≤ b'.cap := by
  have same := settled_room b
  obtain ⟨start, stop⟩ := valid.settled
  have capacity := cap_settled b
  unfold ensure
  by_cases tail : size ≤ b.settled.cap - b.settled.end
  · rw [if_pos tail]
    exact ⟨b.settled, rfl, pending_settled b, capacity, valid.settled, by omega⟩
  · have slides : b.settled.slideFor size true = b.settled.slide :=
      if_pos ⟨rfl, by omega, by omega⟩
    have moved : b.settled.slide.end = b.settled.end - b.settled.pos := rfl
    have kept : b.settled.slide.cap = b.settled.cap := rfl
    rw [if_neg tail, slides, if_pos (by rw [moved, kept]; omega)]
    exact ⟨b.settled.slide, rfl, by simp, by rw [kept, capacity], valid.settled.slide,
      by rw [moved, kept]; omega⟩

/-- Without room for the request, `ngx_nats_buf_ensure` goes on to grow the settled buffer. -/
theorem ensure_grow (alloc : Alloc) (valid : b.Valid) {size : Nat} (compact : Bool)
    (full : b.cap < b.end - b.pos + size) :
    b.ensure alloc size compact = b.settled.grow alloc size := by
  have same := settled_room b
  obtain ⟨start, stop⟩ := valid.settled
  have capacity := cap_settled b
  have stays : b.settled.slideFor size compact = b.settled :=
    if_neg fun slides => by have := slides.2.2; omega
  unfold ensure
  rw [stays, if_neg (by omega), if_neg (by omega)]

end Buf

end NgxNats
