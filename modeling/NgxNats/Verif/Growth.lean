import NgxNats.Verif.Appends

/-!
# Growth of a buffer

`ngx_nats_buf_ensure` finds room in place, refuses, or doubles the capacity until the pending bytes
and the request fit. Two things depend on where the doubling stops: whether the request fits behind
`end`, which growing does not move, and whether the capacity stays below the limit.
-/
namespace NgxNats.Buf

variable {b : Buf} {alloc : Alloc} {size : Nat} {compact : Bool}

/-- The doubling loop ends at the least doubling that covers a need of at most `2^63`. -/
theorem doubleUntil_exact {nt rounds ns : Nat} (positive : 0 < ns) (limit : nt ≤ 2 ^ 63)
    (enough : nt ≤ ns * 2 ^ rounds) : ∃ k, doubleUntil nt rounds ns = .ok (ns * 2 ^ k) ∧
      nt ≤ ns * 2 ^ k ∧ ∀ j, nt ≤ ns * 2 ^ j → ns * 2 ^ k ≤ ns * 2 ^ j := by
  induction rounds generalizing ns with
  | zero =>
    have covered : ¬ns < nt := by omega
    refine ⟨0, ?_, by omega, fun j _ => ?_⟩
    · simp only [doubleUntil, if_neg covered, Nat.pow_zero, Nat.mul_one]
    · exact Nat.mul_le_mul_left ns (Nat.pow_le_pow_right (by decide) (Nat.zero_le j))
  | succ rounds ih =>
    by_cases short : ns < nt
    · have exact : ns * 2 % 2 ^ 64 = ns * 2 := Nat.mod_eq_of_lt (by omega)
      have shift (j : Nat) : ns * 2 * 2 ^ j = ns * 2 ^ (j + 1) := by
        rw [Nat.mul_assoc, Nat.pow_succ, Nat.mul_comm 2]
      have doubled : 0 < ns * 2 := by omega
      obtain ⟨k, run, covers, least⟩ := ih doubled (by rw [shift]; exact enough)
      refine ⟨k + 1, ?_, by rw [← shift]; exact covers, fun j covered => ?_⟩
      · simp only [doubleUntil, if_pos short, exact, run, shift]
      · cases j with
        | zero => omega
        | succ j =>
          have bound := least j (by rw [shift]; exact covered)
          rw [shift, shift] at bound
          exact bound
    · refine ⟨0, ?_, by omega, fun j _ => ?_⟩
      · simp only [doubleUntil, if_neg short, Nat.pow_zero, Nat.mul_one]
      · exact Nat.mul_le_mul_left ns (Nat.pow_le_pow_right (by decide) (Nat.zero_le j))

/-- A request that is met without a larger block: behind `end`, in a drained buffer, or behind the
pending bytes when they may be moved. -/
def InPlace (b : Buf) (size : Nat) (compact : Bool) : Prop :=
  b.end + size ≤ b.cap ∨
    (b.pos = b.end ∨ compact = true) ∧ b.end - b.pos + size ≤ b.cap

instance (b : Buf) (size : Nat) (compact : Bool) : Decidable (b.InPlace size compact) :=
  inferInstanceAs (Decidable (_ ∨ _))

/-- Where a settled buffer ends. -/
theorem settled_end (b : Buf) : b.settled.end = if b.pos = b.end then 0 else b.end := by
  unfold settled
  by_cases drained : b.pos = b.end
  · by_cases front : b.pos = 0
    · rw [if_neg (by omega), if_pos drained]
      omega
    · rw [if_pos ⟨drained, front⟩, if_pos drained]
      rfl
  · rw [if_neg (by omega), if_neg drained]

/-- A request that is met in place leaves the capacity and really has its room. -/
theorem ensure_inPlace (valid : b.Valid) (fits : b.InPlace size compact) (alloc : Alloc) :
    ∃ b', b.ensure alloc size compact = .ok (ngxOk, b') ∧ b'.Valid ∧ b'.end + size ≤ b'.cap ∧
      b'.cap = b.cap := by
  have same := settled_room b
  have capacity := cap_settled b
  have stop := settled_end b
  obtain ⟨start, inside⟩ := valid.settled
  unfold ensure
  by_cases tail : size ≤ b.settled.cap - b.settled.end
  · rw [if_pos tail]
    exact ⟨b.settled, rfl, valid.settled, by omega, capacity⟩
  · have kept : b.pos ≠ b.end := by
      intro drained
      rw [if_pos drained] at stop
      rcases fits with behind | ⟨-, room⟩
      · omega
      · omega
    rw [if_neg kept] at stop
    have moves : compact = true ∧ b.end - b.pos + size ≤ b.cap := by
      rcases fits with behind | ⟨drained | allowed, room⟩
      · omega
      · exact absurd drained kept
      · exact ⟨allowed, room⟩
    have slides : b.settled.slideFor size compact = b.settled.slide :=
      if_pos ⟨moves.1, by omega, by omega⟩
    have moved : b.settled.slide.end = b.settled.end - b.settled.pos := rfl
    have size_kept : b.settled.slide.cap = b.settled.cap := rfl
    rw [if_neg tail, slides, if_pos (by rw [moved, size_kept]; omega)]
    exact ⟨b.settled.slide, rfl, valid.settled.slide, by rw [moved, size_kept]; omega, capacity⟩

/-- Any other request grows the settled buffer. -/
theorem ensure_otherwise (valid : b.Valid) (other : ¬b.InPlace size compact) (alloc : Alloc) :
    b.ensure alloc size compact = b.settled.grow alloc size := by
  have same := settled_room b
  have capacity := cap_settled b
  have stop := settled_end b
  obtain ⟨start, inside⟩ := valid.settled
  unfold InPlace at other
  simp only [not_or, not_and, Nat.not_le] at other
  have tail : ¬size ≤ b.settled.cap - b.settled.end := by
    by_cases drained : b.pos = b.end
    · have full := other.2 (Or.inl drained)
      omega
    · rw [if_neg drained] at stop
      omega
  have stays : b.settled.slideFor size compact = b.settled := by
    apply if_neg
    rintro ⟨allowed, -, room⟩
    have full := other.2 (Or.inr allowed)
    omega
  unfold ensure
  rw [stays, if_neg tail, if_neg tail]

/-- A buffer at the limit does not grow. -/
theorem grow_limit (large : maxMessageSize ≤ b.cap) :
    b.settled.grow alloc size = .ok (ngxError, b.settled) := by
  unfold grow
  rw [cap_settled, if_pos large]

/-- A smaller buffer asks for the doubled capacity. -/
theorem grow_small (small : b.cap < maxMessageSize) {ns : Nat} (asked : b.doubled size = .ok ns) :
    b.settled.grow alloc size = match alloc ns with
      | none => .ok (ngxError, b.settled)
      | some bnew => .ok (ngxOk, b.settled.realloc bnew ns) := by
  have settled : b.settled.doubled size = .ok ns := by rw [doubled_settled, asked]
  unfold doubled at settled
  unfold grow
  rw [cap_settled, if_neg (by omega)]
  rw [cap_settled] at settled
  simp only [settled]
  rfl

/-- The capacity a small buffer asks for when the need fits in 63 bits. -/
theorem doubled_exact (size : Nat) (positive : 0 < b.cap) (small : b.cap < maxMessageSize)
    (fits : b.end - b.pos + size ≤ 2 ^ 63) : ∃ k, b.doubled size = .ok (b.cap * 2 ^ (k + 1)) ∧
      b.end - b.pos + size ≤ b.cap * 2 ^ (k + 1) ∧
      ∀ j, b.end - b.pos + size ≤ b.cap * 2 ^ (j + 1) →
        b.cap * 2 ^ (k + 1) ≤ b.cap * 2 ^ (j + 1) := by
  have shift (j : Nat) : b.cap * 2 * 2 ^ j = b.cap * 2 ^ (j + 1) := by
    rw [Nat.mul_assoc, Nat.pow_succ, Nat.mul_comm 2]
  simp only [maxMessageSize] at small
  have need : (b.end - b.pos + size) % 2 ^ 64 = b.end - b.pos + size := Nat.mod_eq_of_lt (by omega)
  have twice : b.cap * 2 % 2 ^ 64 = b.cap * 2 := Nat.mod_eq_of_lt (by omega)
  have enough : b.end - b.pos + size ≤ b.cap * 2 * 2 ^ 64 := by omega
  obtain ⟨k, run, covers, least⟩ := doubleUntil_exact (by omega) fits enough
  refine ⟨k, ?_, by rw [← shift]; exact covers, fun j covered => ?_⟩
  · unfold doubled
    rw [need, twice, run, shift]
  · have bound := least j (by rw [shift]; exact covered)
    rw [shift, shift] at bound
    exact bound

/-- `ngx_nats_buf_ensure` returns; with success there is room for the request behind `end`, and
with a refusal the pending bytes are what they were. -/
def MakesRoom (b : Buf) (size : Nat) (compact : Bool) : Prop :=
  ∀ alloc, ∃ rc b', b.ensure alloc size compact = .ok (rc, b') ∧
    (rc = ngxOk → b'.pos ≤ b'.end ∧ b'.end + size ≤ b'.cap) ∧
    (rc = ngxError → b'.pending = b.pending)

/-- Nothing is pending, the buffer is at its limit, or no doubling of the capacity covers the
pending bytes and the request without covering them from `pos` on. -/
def RoomBehind (b : Buf) (size : Nat) : Prop :=
  b.pos = b.end ∨ maxMessageSize ≤ b.cap ∨
    ∀ k, ¬(b.end - b.pos + size ≤ b.cap * 2 ^ (k + 1) ∧ b.cap * 2 ^ (k + 1) < b.end + size)

/-- A capacity is at most half of each of its doublings. -/
theorem twice_le_doubling (cap k : Nat) : cap * 2 ≤ cap * 2 ^ (k + 1) :=
  Nat.mul_le_mul_left cap (Nat.le_self_pow (Nat.succ_ne_zero k) 2)

/-- `ngx_nats_buf_ensure` makes room exactly where the doubled capacity also covers the bytes
before `pos`. -/
theorem makesRoom_iff (b : Buf) (valid : b.Valid) (positive : 0 < b.cap) (size : Nat)
    (small : size < 2 ^ 62) (compact : Bool) :
    b.MakesRoom size compact ↔ b.RoomBehind size := by
  have stop := settled_end b
  have start := valid.pos_le
  have inside := valid.end_le
  constructor
  · intro makes
    by_cases drained : b.pos = b.end
    · exact Or.inl drained
    · by_cases large : maxMessageSize ≤ b.cap
      · exact Or.inr (Or.inl large)
      · refine Or.inr (Or.inr ?_)
        rintro k ⟨covers, short⟩
        have twice := twice_le_doubling b.cap k
        simp only [maxMessageSize] at large
        have other : ¬b.InPlace size compact := by
          unfold InPlace
          omega
        obtain ⟨j, asked, -, least⟩ := doubled_exact size positive
          (by simp only [maxMessageSize]; omega) (by omega)
        obtain ⟨rc, b', run, room, -⟩ := makes fun _ => some fun _ => 0
        rw [ensure_otherwise valid other, grow_small (by simp only [maxMessageSize]; omega) asked]
          at run
        cases run
        have behind := (room rfl).2
        have bound := least k covers
        simp only [realloc] at behind
        rw [if_neg drained] at stop
        omega
  · intro room alloc
    by_cases fits : b.InPlace size compact
    · obtain ⟨b', run, valid', behind, -⟩ := ensure_inPlace valid fits alloc
      refine ⟨ngxOk, b', run, fun _ => ⟨valid'.pos_le, behind⟩, fun absurd => by cases absurd⟩
    · rw [ensure_otherwise valid fits]
      by_cases large : maxMessageSize ≤ b.cap
      · rw [grow_limit large]
        exact ⟨ngxError, b.settled, rfl, (fun absurd => by cases absurd),
          fun _ => pending_settled b⟩
      · have low : b.cap < maxMessageSize := by omega
        simp only [maxMessageSize] at large
        obtain ⟨k, asked, covers, -⟩ := doubled_exact size positive low (by omega)
        rw [grow_small low asked]
        cases alloc (b.cap * 2 ^ (k + 1)) with
        | none =>
          exact ⟨ngxError, b.settled, rfl, (fun absurd => by cases absurd),
            fun _ => pending_settled b⟩
        | some bnew =>
          refine ⟨ngxOk, _, rfl, fun _ => ⟨valid.settled.pos_le, ?_⟩, fun absurd => by cases absurd⟩
          show b.settled.end + size ≤ b.cap * 2 ^ (k + 1)
          rcases room with drained | full | none
          · rw [if_pos drained] at stop
            omega
          · simp only [maxMessageSize] at full
            omega
          · have apart := none k
            have early : b.settled.end ≤ b.end := by
              rw [stop]
              split
              · exact Nat.zero_le _
              · exact Nat.le_refl _
            omega

/-- A full read buffer of which 4000 bytes are consumed. -/
def halfRead : Buf := ⟨fun _ => 0, 4000, 4096, 4096⟩

/-- A request that compaction meets. -/
theorem makesRoom_compacted : halfRead.MakesRoom 100 true ↔ halfRead.RoomBehind 100 :=
  makesRoom_iff halfRead ⟨by decide, by decide⟩ (by decide) 100 (by decide) true

/-- For 8000 more bytes the block is doubled once, which holds the pending bytes and the request but
not behind `end`. -/
theorem room_missing : ¬∀ (b : Buf), b.Valid → 0 < b.cap → ∀ size < 2 ^ 62, ∀ compact : Bool,
    b.MakesRoom size compact := by
  intro makes
  obtain ⟨rc, b', run, room, -⟩ :=
    makes halfRead ⟨by decide, by decide⟩ (by decide) 8000 (by decide)
    true fun _ => some fun _ => 0
  have grown : halfRead.ensure (fun _ => some fun _ => 0) 8000 true =
      .ok (ngxOk, halfRead.realloc (fun _ => 0) 8192) := by
    rw [ensure_otherwise ⟨by decide, by decide⟩ (by decide)]
    exact grow_small (by decide) (by decide)
  rw [grown] at run
  cases run
  exact absurd (room rfl).2 (by decide)

/-- `ngx_nats_buf_ensure` returns with a capacity below the limit, refuses what would need more than
the limit, and where it grows it computes the need and the doubled capacity without wrapping. -/
structure Bounded (b : Buf) (size : Nat) (compact : Bool) : Prop where
  returns : ∀ alloc, ∃ rc b', b.ensure alloc size compact = .ok (rc, b') ∧
    b'.cap ≤ maxMessageSize ∧
    (¬b.InPlace size compact → maxMessageSize < b.end - b.pos + size → rc = ngxError)
  exact : ¬b.InPlace size compact → b.cap < maxMessageSize →
    b.end - b.pos + size < 2 ^ 64 ∧ ∃ k, b.doubled size = .ok (b.cap * 2 ^ (k + 1))

/-- The request is met in place, the buffer is at its limit, or a doubling of the capacity below
the limit covers the pending bytes and the request. -/
def GrowsBelow (b : Buf) (size : Nat) (compact : Bool) : Prop :=
  b.InPlace size compact ∨ maxMessageSize ≤ b.cap ∨
    ∃ k, b.end - b.pos + size ≤ b.cap * 2 ^ (k + 1) ∧ b.cap * 2 ^ (k + 1) ≤ maxMessageSize

/-- `ngx_nats_buf_ensure` respects its limit exactly where it need not double beyond it. -/
theorem bounded_iff (b : Buf) (valid : b.Valid) (least : bufInitSize ≤ b.cap)
    (most : b.cap ≤ maxMessageSize) (size : Nat) (compact : Bool) :
    b.Bounded size compact ↔ b.GrowsBelow size compact := by
  have positive : 0 < b.cap := Nat.lt_of_lt_of_le (by decide) least
  constructor
  · rintro ⟨returns, exact⟩
    by_cases fits : b.InPlace size compact
    · exact Or.inl fits
    · by_cases large : maxMessageSize ≤ b.cap
      · exact Or.inr (Or.inl large)
      · obtain ⟨small, k, asked⟩ := exact fits (by omega)
        have covers := doubleUntil_covers asked
        rw [Nat.mod_eq_of_lt small] at covers
        refine Or.inr (Or.inr ⟨k, covers, ?_⟩)
        obtain ⟨rc, b', run, bound, -⟩ := returns fun _ => some fun _ => 0
        rw [ensure_otherwise valid fits, grow_small (by omega) asked] at run
        cases run
        exact bound
  · intro grows
    have capacity := cap_settled b
    by_cases fits : b.InPlace size compact
    · refine ⟨fun alloc => ?_, fun other => absurd fits other⟩
      obtain ⟨b', run, -, -, same⟩ := ensure_inPlace valid fits alloc
      exact ⟨ngxOk, b', run, by omega, fun other => absurd fits other⟩
    · by_cases large : maxMessageSize ≤ b.cap
      · refine ⟨fun alloc => ?_, fun _ low => by omega⟩
        rw [ensure_otherwise valid fits, grow_limit large]
        exact ⟨ngxError, b.settled, rfl, by omega, fun _ _ => rfl⟩
      · obtain ⟨j, covered, below⟩ := (grows.resolve_left fits).resolve_left large
        have low : b.cap < maxMessageSize := by omega
        have far : maxMessageSize < 2 ^ 63 := by decide
        obtain ⟨k, asked, covers, bound⟩ := doubled_exact size positive low (by omega)
        have bound := bound j covered
        refine ⟨fun alloc => ?_, fun _ _ => ⟨by omega, k, asked⟩⟩
        rw [ensure_otherwise valid fits, grow_small low asked]
        cases alloc (b.cap * 2 ^ (k + 1)) with
        | none => exact ⟨ngxError, b.settled, rfl, by omega, fun _ _ => rfl⟩
        | some bnew =>
          refine ⟨ngxOk, _, rfl, ?_, fun _ beyond => by omega⟩
          show b.cap * 2 ^ (k + 1) ≤ maxMessageSize
          omega

/-- A request that one doubling meets. -/
theorem bounded_doubled : halfRead.Bounded 5000 false ↔ halfRead.GrowsBelow 5000 false :=
  bounded_iff halfRead ⟨by decide, by decide⟩ (by decide) (by decide) 5000 false

/-- An empty buffer of the initial size that is asked for 300 megabytes is given 512. -/
theorem limit_exceeded : ¬∀ (b : Buf), b.Valid → bufInitSize ≤ b.cap → b.cap ≤ maxMessageSize →
    ∀ size < 2 ^ 64, ∀ compact : Bool, b.Bounded size compact := by
  intro bounded
  have fresh : (create bufInitSize fun _ => 0).Valid := ⟨Nat.le_refl _, Nat.zero_le _⟩
  obtain ⟨returns, -⟩ := bounded (create bufInitSize fun _ => 0) fresh (by decide) (by decide)
    (300 * 1024 * 1024) (by decide) true
  obtain ⟨rc, b', run, bound, -⟩ := returns fun _ => some fun _ => 0
  have asked : (create bufInitSize fun _ => 0).doubled (300 * 1024 * 1024) =
      .ok (512 * 1024 * 1024) := by decide +kernel
  rw [ensure_otherwise fresh (by decide), grow_small (by decide) asked] at run
  cases run
  exact absurd bound (by decide)

end NgxNats.Buf
