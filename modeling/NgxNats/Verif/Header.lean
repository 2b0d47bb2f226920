import NgxNats.Verif.Token

/-!
# The header of a MSG frame

`parseMsgHeader` is a tokenizer followed by two numbers: `msgTokens` names the tokens, and the
sid and length it returns are the decimal values of two of them, wrapped in a signed word.
-/
namespace NgxNats

variable {data : List UInt8} {max : Nat}

/-- The end of a slice. -/
def Slice.stop (slice : Slice) : Nat := slice.start + slice.len

/-- The tokens of a MSG header line. -/
structure MsgTokens where
  subject : Slice
  sid : Slice
  replyto : Option Slice
  len : Slice
  deriving DecidableEq, Repr

/-- The tokens that `ngx_nats_parse_msg` finds on a header line, before it reads numbers. -/
def msgTokens (data : List UInt8) (headerLen max : Nat) : Except Fault (Option MsgTokens) := do
  let subject ← natsToken data headerLen max
  let some n := subject.next | return none
  if n = max ∨ subject.ne ≤ subject.ns then return none
  let sid ← natsToken data n max
  let some n := sid.next | return none
  if n = max ∨ sid.ne ≤ sid.ns then return none
  let some (replyto, len) ← parseMsgLast data n max | return none
  return some ⟨⟨subject.ns, subject.ne - subject.ns⟩, ⟨sid.ns, sid.ne - sid.ns⟩, replyto, len⟩

/-- Slices that lie in order between two positions of a line. -/
structure MsgTokens.Ordered (tokens : MsgTokens) (start max : Nat) : Prop where
  subject_start : start ≤ tokens.subject.start
  subject_nonempty : 0 < tokens.subject.len
  subject_sid : tokens.subject.stop ≤ tokens.sid.start
  sid_nonempty : 0 < tokens.sid.len
  sid_len : tokens.sid.stop ≤ tokens.len.start
  sid_replyto : ∀ slice, tokens.replyto = some slice → tokens.sid.stop ≤ slice.start
  replyto_nonempty : ∀ slice, tokens.replyto = some slice → 0 < slice.len
  replyto_len : ∀ slice, tokens.replyto = some slice → slice.stop ≤ tokens.len.start
  len_nonempty : 0 < tokens.len.len
  len_stop : tokens.len.stop ≤ max

/-- The number in a slice, when it is a nonempty digit run: its value in a signed word. -/
def readNumber (data : List UInt8) (slice : Slice) : Option Int :=
  if slice.len ≠ 0 ∧ ∀ c ∈ slice.bytes data, IsDigit c then
    some (Word.signed (decimalValue (slice.bytes data))) else none

/-- The message of a header line: its tokens, with the sid and the length read as numbers. -/
def MsgTokens.message (tokens : MsgTokens) (data : List UInt8) (m : Msg) : Option Msg := do
  let sid ← readNumber data tokens.sid
  let len ← readNumber data tokens.len
  some { m with
    subject := tokens.subject, sid := sid, replyto := tokens.replyto.getD m.replyto, len := len }

/-- `_nats_atoi` on a slice inside the memory is its number. -/
theorem natsAtoi_eq {s n : Nat} (fits : s + n ≤ data.length) :
    natsAtoi data s n = .ok (readNumber data ⟨s, n⟩) := by
  obtain ⟨result, run⟩ := natsAtoi_total fits
  rw [run, natsAtoi_spec ⟨s, n⟩ run]
  rfl

/-- The end of a header returns, and its slices lie in order after the start position. -/
theorem parseMsgLast_total (line : EndsLine data max) {n : Nat} (start : n ≤ max) :
    ∃ found, parseMsgLast data n max = .ok found ∧ ∀ replyto len, found = some (replyto, len) →
      n ≤ len.start ∧ 0 < len.len ∧ len.stop ≤ max ∧
        ∀ slice, replyto = some slice →
          n ≤ slice.start ∧ 0 < slice.len ∧ slice.stop ≤ len.start := by
  obtain ⟨third, run, within⟩ := natsToken_total line start
  simp only [parseMsgLast, run, bind, Except.bind]
  cases next : third.next with
  | none => exact ⟨none, rfl, fun _ _ absurd => by cases absurd⟩
  | some n₃ =>
    obtain ⟨after, before, place⟩ := within n₃ next
    simp only
    by_cases empty : third.ne ≤ third.ns
    · rw [if_pos empty]
      exact ⟨none, rfl, fun _ _ absurd => by cases absurd⟩
    · rw [if_neg empty]
      have placed : n ≤ third.ns ∧ third.ns ≤ third.ne ∧ third.ne = n₃ := by
        rcases place with ⟨_, _, _⟩ | place
        · omega
        · exact place
      by_cases more : n₃ < max
      · rw [if_pos more]
        obtain ⟨fourth, run₄, within₄⟩ := natsToken_total line before
        rw [run₄]
        simp only
        cases next₄ : fourth.next with
        | none => exact ⟨none, rfl, fun _ _ absurd => by cases absurd⟩
        | some n₄ =>
          obtain ⟨after₄, before₄, place₄⟩ := within₄ n₄ next₄
          simp only
          obtain ⟨fifth, run₅, -⟩ := natsToken_total line before₄
          rw [run₅]
          simp only
          cases next₅ : fifth.next with
          | none => exact ⟨none, rfl, fun _ _ absurd => by cases absurd⟩
          | some n₅ =>
            simp only
            by_cases extra : n₅ < max ∨ fifth.ns < fifth.ne
            · rw [if_pos extra]
              exact ⟨none, rfl, fun _ _ absurd => by cases absurd⟩
            · rw [if_neg extra]
              by_cases two : fourth.ns < fourth.ne
              · rw [if_pos two]
                refine ⟨_, rfl, fun replyto len same => ?_⟩
                cases same
                have placed₄ : n₃ ≤ fourth.ns ∧ fourth.ne = n₄ := by
                  rcases place₄ with ⟨_, _, _⟩ | ⟨lower, _, last⟩
                  · omega
                  · exact ⟨lower, last⟩
                refine ⟨by simp only; omega, by simp only; omega, by simp only [Slice.stop]; omega,
                  fun slice given => ?_⟩
                cases given
                simp only [Slice.stop]
                omega
              · rw [if_neg two]
                refine ⟨_, rfl, fun replyto len same => ?_⟩
                cases same
                exact ⟨placed.1, by simp only; omega, by simp only [Slice.stop]; omega,
                  fun slice absurd => by cases absurd⟩
      · rw [if_neg more]
        refine ⟨_, rfl, fun replyto len same => ?_⟩
        cases same
        exact ⟨placed.1, by simp only; omega, by simp only [Slice.stop]; omega,
          fun slice absurd => by cases absurd⟩

/-- Appended bytes do not change the end of a header. -/
theorem parseMsgLast_append (more : List UInt8) (line : EndsLine data max) {n : Nat}
    (start : n ≤ max) : parseMsgLast (data ++ more) n max = parseMsgLast data n max := by
  obtain ⟨third, run, within⟩ := natsToken_total line start
  simp only [parseMsgLast, run, natsToken_append more run, bind, Except.bind]
  cases next : third.next with
  | none => rfl
  | some n₃ =>
    obtain ⟨_, before, _⟩ := within n₃ next
    obtain ⟨fourth, run₄, within₄⟩ := natsToken_total line before
    simp only [run₄, natsToken_append more run₄]
    cases next₄ : fourth.next with
    | none => rfl
    | some n₄ =>
      obtain ⟨_, before₄, _⟩ := within₄ n₄ next₄
      obtain ⟨fifth, run₅, -⟩ := natsToken_total line before₄
      simp only [run₅, natsToken_append more run₅]

/-- The tokens of a header line are found, and they lie in order on the line. -/
theorem msgTokens_total (line : EndsLine data max) {headerLen : Nat} (start : headerLen ≤ max) :
    ∃ found, msgTokens data headerLen max = .ok found ∧
      ∀ tokens, found = some tokens → tokens.Ordered headerLen max := by
  obtain ⟨subject, run, within⟩ := natsToken_total line start
  simp only [msgTokens, run, bind, Except.bind]
  cases next : subject.next with
  | none => exact ⟨none, rfl, fun _ absurd => by cases absurd⟩
  | some n =>
    obtain ⟨after, before, place⟩ := within n next
    simp only
    by_cases last : n = max ∨ subject.ne ≤ subject.ns
    · rw [if_pos last]
      exact ⟨none, rfl, fun _ absurd => by cases absurd⟩
    · rw [if_neg last]
      obtain ⟨sid, run₂, within₂⟩ := natsToken_total line before
      rw [run₂]
      simp only
      cases next₂ : sid.next with
      | none => exact ⟨none, rfl, fun _ absurd => by cases absurd⟩
      | some n₂ =>
        obtain ⟨after₂, before₂, place₂⟩ := within₂ n₂ next₂
        simp only
        by_cases last₂ : n₂ = max ∨ sid.ne ≤ sid.ns
        · rw [if_pos last₂]
          exact ⟨none, rfl, fun _ absurd => by cases absurd⟩
        · rw [if_neg last₂]
          obtain ⟨found, run₃, ordered⟩ := parseMsgLast_total line (n := n₂) before₂
          rw [run₃]
          cases found with
          | none => exact ⟨none, rfl, fun _ absurd => by cases absurd⟩
          | some pair =>
            obtain ⟨replyto, len⟩ := pair
            obtain ⟨lower, nonempty, upper, reply⟩ := ordered replyto len rfl
            refine ⟨_, rfl, fun tokens same => ?_⟩
            cases same
            have placed : headerLen ≤ subject.ns ∧ subject.ne = n := by omega
            have placed₂ : n ≤ sid.ns ∧ sid.ne = n₂ := by omega
            refine ⟨placed.1, ?_, ?_, ?_, ?_, fun slice given => ?_, fun slice given => ?_,
              fun slice given => ?_, nonempty, upper⟩
            · simp only; omega
            · simp only [Slice.stop]; omega
            · simp only; omega
            · simp only [Slice.stop]; omega
            · have := (reply slice given).1
              simp only [Slice.stop]
              omega
            · exact (reply slice given).2.1
            · exact (reply slice given).2.2

/-- A MSG header is read by finding its tokens and then reading the sid and the length. -/
theorem parseMsgHeader_eq (line : EndsLine data max) {headerLen : Nat} (start : headerLen ≤ max)
    (m : Msg) : ∃ found, msgTokens data headerLen max = .ok found ∧
      parseMsgHeader data headerLen max m =
        .ok (found.bind fun tokens => tokens.message data m) := by
  have inside := line.inside
  obtain ⟨subject, run, within⟩ := natsToken_total line start
  simp only [msgTokens, parseMsgHeader, run, bind, Except.bind]
  cases next : subject.next with
  | none => exact ⟨none, rfl, rfl⟩
  | some n =>
    obtain ⟨after, before, place⟩ := within n next
    simp only
    by_cases last : n = max ∨ subject.ne ≤ subject.ns
    · simp only [if_pos last]
      exact ⟨none, rfl, rfl⟩
    · simp only [if_neg last]
      obtain ⟨sid, run₂, within₂⟩ := natsToken_total line before
      simp only [run₂]
      cases next₂ : sid.next with
      | none => exact ⟨none, rfl, rfl⟩
      | some n₂ =>
        obtain ⟨after₂, before₂, place₂⟩ := within₂ n₂ next₂
        simp only
        by_cases last₂ : n₂ = max ∨ sid.ne ≤ sid.ns
        · simp only [if_pos last₂]
          exact ⟨none, rfl, rfl⟩
        · simp only [if_neg last₂]
          obtain ⟨found, run₃, ordered⟩ := parseMsgLast_total line (n := n₂) before₂
          have sidInside : sid.ns + (sid.ne - sid.ns) ≤ data.length := by omega
          simp only [run₃, natsAtoi_eq sidInside]
          cases sidRead : readNumber data ⟨sid.ns, sid.ne - sid.ns⟩ with
          | none =>
            cases found with
            | none => exact ⟨none, rfl, rfl⟩
            | some pair =>
              exact ⟨_, rfl, by simp [MsgTokens.message, sidRead, pure, Except.pure]⟩
          | some value =>
            cases found with
            | none => exact ⟨none, rfl, rfl⟩
            | some pair =>
              obtain ⟨replyto, len⟩ := pair
              obtain ⟨lower, nonempty, upper, -⟩ := ordered replyto len rfl
              have lenInside : len.start + len.len ≤ data.length := by
                simp only [Slice.stop] at upper
                omega
              refine ⟨_, rfl, ?_⟩
              simp only [natsAtoi_eq lenInside]
              cases lenRead : readNumber data len with
              | none => simp [MsgTokens.message, sidRead, lenRead, pure, Except.pure]
              | some length => simp [MsgTokens.message, sidRead, lenRead, pure, Except.pure]

/-- Appended bytes do not change the tokens of a header line. -/
theorem msgTokens_append (more : List UInt8) (line : EndsLine data max) {headerLen : Nat}
    (start : headerLen ≤ max) :
    msgTokens (data ++ more) headerLen max = msgTokens data headerLen max := by
  obtain ⟨subject, run, within⟩ := natsToken_total line start
  simp only [msgTokens, run, natsToken_append more run, bind, Except.bind]
  cases next : subject.next with
  | none => rfl
  | some n =>
    obtain ⟨_, before, _⟩ := within n next
    obtain ⟨sid, run₂, within₂⟩ := natsToken_total line before
    simp only [run₂, natsToken_append more run₂]
    cases next₂ : sid.next with
    | none => rfl
    | some n₂ =>
      obtain ⟨_, before₂, _⟩ := within₂ n₂ next₂
      simp only [parseMsgLast_append more line before₂]

/-- Appended bytes do not change the bytes of a slice inside the memory. -/
theorem Slice.bytes_append (more : List UInt8) {slice : Slice} (inside : slice.stop ≤ data.length) :
    slice.bytes (data ++ more) = slice.bytes data := by
  simp only [Slice.stop] at inside
  unfold Slice.bytes
  rw [List.drop_append_of_le_length (by omega),
    List.take_append_of_le_length (by rw [List.length_drop]; omega)]

/-- Appended bytes do not change the message of a header line. -/
theorem MsgTokens.message_append (more : List UInt8) (line : EndsLine data max) {start : Nat}
    {tokens : MsgTokens} (ordered : tokens.Ordered start max) (m : Msg) :
    tokens.message (data ++ more) m = tokens.message data m := by
  have inside := line.inside
  have sidLen := ordered.sid_len
  have lenStop := ordered.len_stop
  have lenPositive := ordered.len_nonempty
  simp only [Slice.stop] at sidLen lenStop
  unfold MsgTokens.message readNumber
  rw [Slice.bytes_append more (by simp only [Slice.stop]; omega),
    Slice.bytes_append more (by simp only [Slice.stop]; omega)]

end NgxNats
