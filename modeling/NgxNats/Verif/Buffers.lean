import NgxNats.Model.Buffer

/-!
# Making room

What `ngx_nats_buf_ensure` leaves behind in each case: a valid buffer that is at least as large,
the same pending bytes when it refuses, and for a request no larger than the capacity always an
answer.
-/
namespace NgxNats.Buf

variable {b b' : Buf} {alloc : Alloc} {size : Nat} {rc : Int}

/-- The doubling loop never ends below the size it starts from. -/
theorem doubleUntil_least {nt rounds ns result : Nat}
    (ended : doubleUntil nt rounds ns = .ok result) :
    ns ≤ result := by
  have covers := doubleUntil_covers ended
  cases rounds with
  | zero =>
    simp only [doubleUntil] at ended
    split at ended
    · cases ended
    · cases ended
      exact Nat.le_refl ns
  | succ rounds =>
    simp only [doubleUntil] at ended
    split at ended
    · omega
    · cases ended
      exact Nat.le_refl ns

/-- A buffer of the module: valid, and at least as large as it was created. -/
structure WellFormed (b : Buf) : Prop where
  valid : b.Valid
  least : bufInitSize ≤ b.cap

/-- A buffer with no room between its two positions has nothing pending. -/
theorem pending_of_empty (empty : b.end - b.pos = 0) : b.pending = [] := by
  apply List.eq_nil_of_length_eq_zero
  rw [length_pending, empty]

/-- What every outcome of `ngx_nats_buf_ensure` has in common. -/
structure Ensured (b : Buf) (rc : Int) (b' : Buf) : Prop where
  answered : rc = ngxOk ∨ rc = ngxError
  valid : b'.Valid
  larger : b.cap ≤ b'.cap
  count : b'.end - b'.pos = b.end - b.pos
  refused : rc = ngxError → b'.pending = b.pending ∧ b'.cap = b.cap

/-- Sliding for a request keeps a buffer valid, its pending bytes and its capacity. -/
theorem slideFor_kept (valid : b.Valid) (size : Nat) (compact : Bool) :
    (b.slideFor size compact).Valid ∧ (b.slideFor size compact).pending = b.pending ∧
      (b.slideFor size compact).cap = b.cap := by
  unfold slideFor
  split
  · exact ⟨valid.slide, pending_slide b, rfl⟩
  · exact ⟨valid, rfl, rfl⟩

/-- A reallocation of a buffer that starts at the front keeps the pending bytes. -/
theorem pending_realloc (front : b.pos = 0) (bnew : Memory UInt8) (ns : Nat) :
    (b.realloc bnew ns).pending = b.pending := by
  have kept := Memory.read_write_self bnew 0 b.pending
  rw [length_pending] at kept
  simpa [realloc, pending, front] using kept

/-- Growing leads to an outcome of `ngx_nats_buf_ensure`. -/
theorem grow_ensured (valid : b.Valid) (run : b.grow alloc size = .ok (rc, b')) :
    Ensured b rc b' := by
  unfold grow at run
  split at run
  · cases run
    exact ⟨.inr rfl, valid, Nat.le_refl _, rfl, fun _ => ⟨rfl, rfl⟩⟩
  · next small =>
    simp only [bind, Except.bind] at run
    split at run
    · cases run
    · next result ended =>
      have larger := doubleUntil_least ended
      simp only [maxMessageSize] at small
      rw [Nat.mod_eq_of_lt (by omega)] at larger
      split at run
      · cases run
        exact ⟨.inr rfl, valid, Nat.le_refl _, rfl, fun _ => ⟨rfl, rfl⟩⟩
      · cases run
        obtain ⟨start, stop⟩ := valid
        refine ⟨.inl rfl, ⟨start, ?_⟩, ?_, rfl, fun absurd => by cases absurd⟩
        · simp only [realloc]
          omega
        · simp only [realloc]
          omega

/-- Every run of `ngx_nats_buf_ensure` leads to one of its outcomes. -/
theorem ensure_ensured (valid : b.Valid) {compact : Bool}
    (run : b.ensure alloc size compact = .ok (rc, b')) : Ensured b rc b' := by
  have same := cap_settled b
  have many := settled_room b
  obtain ⟨slid, pending, kept⟩ := slideFor_kept valid.settled size compact
  have moved := congrArg List.length pending
  rw [length_pending, length_pending] at moved
  unfold ensure at run
  split at run
  · cases run
    exact ⟨.inl rfl, valid.settled, by omega, many, fun absurd => by cases absurd⟩
  · split at run
    · cases run
      exact ⟨.inl rfl, slid, by omega, by omega, fun absurd => by cases absurd⟩
    · obtain ⟨answers, fresh, larger, count, refused⟩ := grow_ensured slid run
      refine ⟨answers, fresh, by omega, by omega, fun error => ?_⟩
      obtain ⟨untouched, size⟩ := refused error
      exact ⟨by rw [untouched, pending, pending_settled], by omega⟩

/-- A request no larger than the capacity is answered, and room granted is really there. -/
theorem ensure_total (alloc : Alloc) (valid : b.Valid) (fits : size ≤ b.cap) :
    ∃ rc b', b.ensure alloc size true = .ok (rc, b') ∧
      (rc = ngxOk → b'.end + size ≤ b'.cap) := by
  by_cases room : b.end - b.pos + size ≤ b.cap
  · obtain ⟨b', run, -, -, -, inside⟩ := ensure_room alloc valid room
    exact ⟨ngxOk, b', run, fun _ => inside⟩
  · rw [ensure_grow alloc valid true (by omega)]
    obtain ⟨start, stop⟩ := valid.settled
    have same := settled_room b
    have capacity := cap_settled b
    unfold grow
    by_cases large : maxMessageSize ≤ b.settled.cap
    · rw [if_pos large]
      exact ⟨ngxError, b.settled, rfl, fun absurd => by cases absurd⟩
    · rw [if_neg large]
      simp only [maxMessageSize] at large
      have twice : b.settled.cap * 2 % 2 ^ 64 = b.settled.cap * 2 := Nat.mod_eq_of_lt (by omega)
      have need : (b.settled.end - b.settled.pos + size) % 2 ^ 64 ≤ b.settled.cap * 2 :=
        Nat.le_trans (Nat.mod_le _ _) (by omega)
      simp only [twice, doubleUntil_done need, bind, Except.bind]
      cases granted : alloc (b.settled.cap * 2) with
      | none => exact ⟨ngxError, b.settled, rfl, fun absurd => by cases absurd⟩
      | some bnew =>
        refine ⟨ngxOk, _, rfl, fun _ => ?_⟩
        simp only [realloc]
        omega

end NgxNats.Buf
