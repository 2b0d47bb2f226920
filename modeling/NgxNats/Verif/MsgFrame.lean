import NgxNats.Verif.Frames

/-!
# MSG frames

A MSG frame is a header line and a payload whose length the line declares. What the parser does
with the payload is settled by where the declared end lies; for a length that fits it is a plain
comparison with the buffer's length.
-/
namespace NgxNats

variable {b : List UInt8} {headerLen max : Nat} {tokens : MsgTokens}

/-- A complete MSG header line after the keyword: a space, tokens of which the sid and the length
are digit runs, and the first CR, followed by a line feed. -/
structure MsgLine (headerLen : Nat) (b : List UInt8) (max : Nat) (tokens : MsgTokens) : Prop where
  space : b[headerLen]? = some SP
  start : headerLen ≤ max
  first : ∀ i, headerLen ≤ i → i < max → b[i]? ≠ some CR
  cr : b[max]? = some CR
  lf : b[max + 1]? = some LF
  found : msgTokens b headerLen max = .ok (some tokens)
  sid_digits : ∀ c ∈ tokens.sid.bytes b, IsDigit c
  len_digits : ∀ c ∈ tokens.len.bytes b, IsDigit c

/-- The declared sid, unbounded. -/
def MsgTokens.sidValue (tokens : MsgTokens) (b : List UInt8) : Nat :=
  decimalValue (tokens.sid.bytes b)

/-- The declared length, unbounded. -/
def MsgTokens.lenValue (tokens : MsgTokens) (b : List UInt8) : Nat :=
  decimalValue (tokens.len.bytes b)

/-- The message `ngx_nats_parse_msg` has formed when it turns to the payload. -/
def MsgTokens.formed (tokens : MsgTokens) (b : List UInt8) (m : Msg) : Msg :=
  { m with
    subject := tokens.subject
    sid := Word.signed (tokens.sidValue b)
    replyto := tokens.replyto.getD m.replyto
    len := Word.signed (tokens.lenValue b) }

namespace MsgLine

/-- The header line ends with a CR. -/
theorem ends (line : MsgLine headerLen b max tokens) : EndsLine b max := ⟨line.cr⟩

/-- The whole line is inside the buffer. -/
theorem inside (line : MsgLine headerLen b max tokens) : max + 2 ≤ b.length :=
  (List.getElem?_eq_some_iff.mp line.lf).1

/-- The tokens lie in order on the line. -/
theorem ordered (line : MsgLine headerLen b max tokens) : tokens.Ordered headerLen max := by
  obtain ⟨found, run, ordered⟩ := msgTokens_total line.ends line.start
  rw [line.found, Except.ok.injEq] at run
  exact ordered tokens run.symm

/-- The message of a line with digit runs. -/
theorem message (line : MsgLine headerLen b max tokens) (m : Msg) :
    tokens.message b m = some (tokens.formed b m) := by
  have sid := Nat.ne_of_gt line.ordered.sid_nonempty
  have len := Nat.ne_of_gt line.ordered.len_nonempty
  unfold MsgTokens.message readNumber
  rw [if_pos ⟨sid, line.sid_digits⟩, if_pos ⟨len, line.len_digits⟩]
  rfl

/-- A line of a buffer is a line of every longer one. -/
theorem append (line : MsgLine headerLen b max tokens) (more : List UInt8) :
    MsgLine headerLen (b ++ more) max tokens := by
  have inside := line.inside
  have order := line.ordered
  have start := order.subject_start
  have subjectSid := order.subject_sid
  have sidLen := order.sid_len
  have lenStop := order.len_stop
  simp only [Slice.stop] at subjectSid sidLen lenStop
  have sid : tokens.sid.bytes (b ++ more) = tokens.sid.bytes b :=
    Slice.bytes_append more (by simp only [Slice.stop]; omega)
  have len : tokens.len.bytes (b ++ more) = tokens.len.bytes b :=
    Slice.bytes_append more (by simp only [Slice.stop]; omega)
  refine ⟨?_, line.start, fun i low high => ?_, ?_, ?_, ?_, ?_, ?_⟩
  · rw [List.getElem?_append_left (by have := line.start; omega)]
    exact line.space
  · rw [List.getElem?_append_left (by omega)]
    exact line.first i low high
  · rw [List.getElem?_append_left (by omega)]
    exact line.cr
  · rw [List.getElem?_append_left (by omega)]
    exact line.lf
  · rw [msgTokens_append more line.ends line.start]
    exact line.found
  · rw [sid]
    exact line.sid_digits
  · rw [len]
    exact line.len_digits

/-- On a header line the parser forms the message and turns to the payload. -/
theorem parseMsg_eq (line : MsgLine headerLen b max tokens) (m : Msg) :
    parseMsg (.ofList b) headerLen m =
      parseMsgPayload (max + 2) (.ofList b) (tokens.formed b { m with type := .msg }) := by
  have inside := line.inside
  have start := line.start
  have stops : scan (· ≠ CR) b (b.length - 1 - headerLen) headerLen = .ok max := by
    refine scan_eq start (by omega) (fun i low high => ?_) fun _ => ⟨CR, line.cr, by simp⟩
    refine ⟨b[i], List.getElem?_eq_getElem (by omega), ?_⟩
    have other := line.first i low high
    rw [List.getElem?_eq_getElem (by omega), ne_eq, Option.some.injEq] at other
    simpa using other
  have before : ¬b.length - 1 ≤ max := by omega
  obtain ⟨found, run, header⟩ := parseMsgHeader_eq line.ends start { m with type := .msg }
  rw [line.found, Except.ok.injEq] at run
  subst run
  rw [Option.bind_some, line.message] at header
  simp only [parseMsg, ofList_len, ofList_data, load_ok.mpr line.space, bind, Except.bind, ne_eq,
    not_true_eq_false, ↓reduceIte, stops, before, load_ok.mpr line.lf, header]

end MsgLine

/-- A parser's result that accepts nothing. -/
def Never (_ : Parsed) : Prop := False

/-- The MSG parser either asks for more bytes or refuses, the same on every longer buffer, or
it has a header line before it. -/
theorem parseMsg_cases {b : List UInt8} {headerLen : Nat} (inside : headerLen < b.length)
    (m : Msg) : (∃ parsed, Outcome (fun bytes => parseMsg bytes headerLen m) b parsed Never) ∨
      ∃ max tokens, MsgLine headerLen b max tokens := by
  by_cases space : b[headerLen] = SP
  · obtain ⟨max, lower, upper, run, passed, ended⟩ := scan_list (· ≠ CR) b headerLen
      (b.length - 1) (by omega) (by omega)
    by_cases last : b.length - 1 ≤ max
    · refine .inl ⟨⟨protoAgain, { m with type := .msg }, b⟩, .again ?_⟩
      simp only [parseMsg, ofList_len, ofList_data, load_inside inside, space, ne_eq,
        not_true_eq_false, run, bind, Except.bind, last, ↓reduceIte]
      rfl
    · have room : max < b.length := by omega
      have room₂ : max + 1 < b.length := by omega
      obtain ⟨cr, longer⟩ := ended room (by omega)
      have cr : b[max] = CR := by simpa using cr
      have longer (more : List UInt8) := longer more ((b ++ more).length - 1)
        (by rw [List.length_append]; omega)
      have farther (more : List UInt8) : ¬(b ++ more).length - 1 ≤ max := by
        rw [List.length_append]
        omega
      by_cases lf : b[max + 1] = LF
      · have line : EndsLine b max := ⟨by rw [List.getElem?_eq_getElem room, cr]⟩
        obtain ⟨found, tokens, -⟩ := parseMsgHeader_eq line lower { m with type := .msg }
        have header (more : List UInt8) : parseMsgHeader (b ++ more) headerLen max
            { m with type := .msg } = .ok (found.bind fun tokens =>
              tokens.message (b ++ more) { m with type := .msg }) := by
          obtain ⟨found', tokens', header⟩ :=
            parseMsgHeader_eq (line.append more) lower { m with type := .msg }
          rw [msgTokens_append more line lower, tokens, Except.ok.injEq] at tokens'
          rw [header, ← tokens']
        have refuse (none : ∀ more, (found.bind fun tokens =>
            tokens.message (b ++ more) { m with type := .msg }) = none) :
            ∃ parsed, Outcome (fun bytes => parseMsg bytes headerLen m) b parsed Never := by
          refine ⟨⟨protoErrInvalidMsg, { m with type := .msg }, b⟩, .error (by decide)
            fun more => ?_⟩
          simp only [parseMsg, ofList_len, ofList_data, load_append_inside more inside, space,
            ne_eq, not_true_eq_false, longer more, bind, Except.bind, farther more,
            load_append_inside more room₂, lf, header more, none more, ↓reduceIte]
          rfl
        cases found with
        | none => exact .inl (refuse fun more => rfl)
        | some tokens' =>
          obtain ⟨found', run', ordered⟩ := msgTokens_total line lower
          rw [tokens, Except.ok.injEq] at run'
          have ordered := ordered tokens' run'.symm
          cases formed : tokens'.message b { m with type := .msg } with
          | none =>
            exact .inl (refuse fun more => by
              rw [Option.bind_some, MsgTokens.message_append more line ordered, formed])
          | some message =>
            refine .inr ⟨max, tokens', ?_, lower, fun i low high absurd => ?_, line.cr, ?_, tokens,
              ?_, ?_⟩
            · rw [List.getElem?_eq_getElem inside, space]
            · have kept := passed i (by omega) low high
              rw [List.getElem?_eq_getElem (by omega), Option.some.injEq] at absurd
              rw [absurd] at kept
              simp at kept
            · rw [List.getElem?_eq_getElem room₂, lf]
            · by_contra other
              simp [MsgTokens.message, readNumber, other] at formed
            · by_contra other
              simp [MsgTokens.message, readNumber, other] at formed
      · refine .inl ⟨⟨protoErrInvalidMsg, { m with type := .msg }, b⟩, .error (by decide)
          fun more => ?_⟩
        simp only [parseMsg, ofList_len, ofList_data, load_append_inside more inside, space, ne_eq,
          not_true_eq_false, longer more, bind, Except.bind, farther more,
          load_append_inside more room₂, lf, not_false_eq_true, ↓reduceIte]
        rfl
  · refine .inl ⟨⟨protoErrInvalidMsg, { m with type := .msg }, b⟩, .error (by decide)
      fun more => ?_⟩
    simp only [parseMsg, ofList_data, load_append_inside more inside, bind, Except.bind, space,
      ne_eq, not_false_eq_true, ↓reduceIte]
    rfl

/-- The buffer an accepted MSG frame leaves behind: a terminator after the subject, after the
reply-to if there is one, and over the CR that ends the payload. -/
def terminated (m : Msg) (b : List UInt8) : List UInt8 :=
  let data := b.set (m.subject.start + m.subject.len) 0
  let data := if 0 < m.replyto.len then data.set (m.replyto.start + m.replyto.len) 0 else data
  data.set m.bend 0

/-- The zeros stored behind the slices keep the length of the buffer. -/
@[simp] theorem length_terminated (m : Msg) (b : List UInt8) :
    (terminated m b).length = b.length := by
  unfold terminated
  split <;> simp

/-- The positions the parser terminates in an accepted MSG frame are inside the buffer. -/
structure Terminable (m : Msg) (b : List UInt8) : Prop where
  subject : m.subject.start + m.subject.len < b.length
  replyto : 0 < m.replyto.len → m.replyto.start + m.replyto.len < b.length
  bend : m.bend < b.length

/-- The positions stay inside when bytes are appended. -/
theorem Terminable.append {m : Msg} (inside : Terminable m b) (more : List UInt8) :
    Terminable m (b ++ more) := by
  obtain ⟨subject, replyto, bend⟩ := inside
  have longer := length_le_append b more
  exact ⟨by omega, fun reply => by have := replyto reply; omega, by omega⟩

/-- Terminators inside a buffer are written there whatever follows it. -/
theorem terminated_append {m : Msg} (inside : Terminable m b) (more : List UInt8) :
    terminated m (b ++ more) = terminated m b ++ more := by
  obtain ⟨subject, replyto, bend⟩ := inside
  unfold terminated
  rw [List.set_append_left _ _ subject]
  by_cases reply : 0 < m.replyto.len
  · simp only [reply, ↓reduceIte]
    rw [List.set_append_left _ _ (by simpa using replyto reply),
      List.set_append_left _ _ (by simpa using bend)]
  · simp only [reply, ↓reduceIte]
    rw [List.set_append_left _ _ (by simpa using bend)]

/-- A frame whose declared length fits: the end of the payload is computed without wrapping. -/
structure LenFits (max : Nat) (len : Nat) : Prop where
  signed : len < 2 ^ 63
  unsigned : max + 2 + len + 2 < 2 ^ 64

/-- The message of an accepted MSG frame. -/
def MsgTokens.accepted (tokens : MsgTokens) (b : List UInt8) (max : Nat) (m : Msg) : Msg :=
  { tokens.formed b { m with type := .msg } with
    bstart := max + 2
    bend := max + 2 + tokens.lenValue b }

/-- An accepted MSG frame: CRLF where the declared length ends. -/
structure MsgFrame (headerLen : Nat) (b : List UInt8) (m : Msg) (max : Nat) (tokens : MsgTokens)
    (parsed : Parsed) : Prop where
  line : MsgLine headerLen b max tokens
  fits : LenFits max (tokens.lenValue b)
  inside : max + 2 + tokens.lenValue b + 2 ≤ b.length
  cr : b[max + 2 + tokens.lenValue b]? = some CR
  lf : b[max + 2 + tokens.lenValue b + 1]? = some LF
  result : parsed = ⟨max + 2 + tokens.lenValue b + 2, tokens.accepted b max m,
    terminated (tokens.accepted b max m) b⟩

/-- The terminated positions of a frame that ends inside the buffer are inside. -/
theorem MsgLine.terminable (line : MsgLine headerLen b max tokens) {m : Msg}
    (fresh : m.replyto.len = 0) (inside : max + 2 + tokens.lenValue b + 2 ≤ b.length) :
    Terminable (tokens.accepted b max m) b := by
  have order := line.ordered
  have subjectSid := order.subject_sid
  have sidLen := order.sid_len
  have lenStop := order.len_stop
  simp only [Slice.stop] at subjectSid sidLen lenStop
  refine ⟨?_, fun reply => ?_, ?_⟩
  · simp only [MsgTokens.accepted, MsgTokens.formed]
    omega
  · simp only [MsgTokens.accepted, MsgTokens.formed] at reply ⊢
    cases given : tokens.replyto with
    | none =>
      rw [given] at reply
      simp only [Option.getD_none] at reply
      omega
    | some slice =>
      have before := order.replyto_len slice given
      simp only [Slice.stop] at before
      simp only [Option.getD_some]
      omega
  · simp only [MsgTokens.accepted]
    omega

/-- The declared sid does not depend on what follows the line. -/
theorem MsgLine.sidValue_append (line : MsgLine headerLen b max tokens) (more : List UInt8) :
    tokens.sidValue (b ++ more) = tokens.sidValue b := by
  have inside := line.inside
  have sidLen := line.ordered.sid_len
  have lenStop := line.ordered.len_stop
  simp only [Slice.stop] at sidLen lenStop
  unfold MsgTokens.sidValue
  rw [Slice.bytes_append more (by simp only [Slice.stop]; omega)]

/-- The declared length does not depend on what follows the line. -/
theorem MsgLine.lenValue_append (line : MsgLine headerLen b max tokens) (more : List UInt8) :
    tokens.lenValue (b ++ more) = tokens.lenValue b := by
  have inside := line.inside
  have lenStop := line.ordered.len_stop
  simp only [Slice.stop] at lenStop
  unfold MsgTokens.lenValue
  rw [Slice.bytes_append more (by simp only [Slice.stop]; omega)]

/-- The message of a line does not depend on what follows the line. -/
theorem MsgLine.formed_append (line : MsgLine headerLen b max tokens) (more : List UInt8)
    (m : Msg) : tokens.formed (b ++ more) m = tokens.formed b m := by
  unfold MsgTokens.formed
  rw [line.sidValue_append, line.lenValue_append]

section Payload

variable {len : Nat} {m : Msg}

/-- The end of a payload, the byte after it and the end of the frame, as the parser computes
them from a signed length. -/
structure PayloadEnd (max len stop : Nat) : Prop where
  first : Word.unsigned (((max + 2 : Nat) : Int) + Word.signed len) = stop
  next : Word.unsigned (((max + 2 : Nat) : Int) + Word.signed len + 1) = stop + 1
  whole : Word.unsigned (((max + 2 : Nat) : Int) + Word.signed len + 2) = stop + 2

/-- The computed end of a payload is the exact one modulo `2^64`. -/
theorem payloadEnd_wrapped {stop : Nat} (wrapped : stop = (max + 2 + len) % 2 ^ 64)
    (room : stop + 2 < 2 ^ 64) : PayloadEnd max len stop := by
  have at_ (offset : Nat) (small : offset ≤ 2) :
      Word.unsigned (((max + 2 : Nat) : Int) + Word.signed len + offset) = stop + offset := by
    rw [Word.unsigned_add_signed]
    unfold Word.unsigned
    omega
  exact ⟨by simpa using at_ 0 (by omega), at_ 1 (by omega), at_ 2 (by omega)⟩

/-- The computed end of a payload whose length fits is the exact one. -/
theorem LenFits.ends (fits : LenFits max len) : PayloadEnd max len (max + 2 + len) := by
  have whole := fits.unsigned
  exact payloadEnd_wrapped (Nat.mod_eq_of_lt (by omega)).symm whole

/-- A payload that is not complete yet. -/
theorem parseMsgPayload_again {stop : Nat} (ends : PayloadEnd max len stop)
    (length : m.len = Word.signed len) (short : b.length < stop + 2) :
    parseMsgPayload (max + 2) (.ofList b) m = .ok ⟨protoAgain, m, b⟩ := by
  simp only [parseMsgPayload, length, ends.whole, ofList_len, short, ↓reduceIte]
  rfl

/-- A complete payload that CRLF does not follow. -/
theorem parseMsgPayload_refused {stop : Nat} (ends : PayloadEnd max len stop)
    (length : m.len = Word.signed len) (inside : stop + 2 ≤ b.length)
    (other : ¬(b[stop]? = some CR ∧ b[stop + 1]? = some LF)) :
    parseMsgPayload (max + 2) (.ofList b) m = .ok ⟨protoErrInvalidMsg, m, b⟩ := by
  have enough : ¬b.length < stop + 2 := by omega
  simp only [parseMsgPayload, length, ends.whole, ends.first, ends.next, ofList_len, ofList_data,
    enough, load_inside (show stop < b.length by omega), bind, Except.bind, ↓reduceIte]
  by_cases cr : b[stop] = CR
  · have lf : b[stop + 1] ≠ LF := fun lf => other
      ⟨by rw [List.getElem?_eq_getElem (by omega), cr],
        by rw [List.getElem?_eq_getElem (by omega), lf]⟩
    simp only [cr, ne_eq, not_true_eq_false,
      load_inside (show stop + 1 < b.length by omega), lf, not_false_eq_true, ↓reduceIte]
    rfl
  · simp only [ne_eq, cr, not_false_eq_true, ↓reduceIte]
    rfl

/-- A complete payload followed by CRLF. -/
theorem parseMsgPayload_accepted (fits : LenFits max len) (length : m.len = Word.signed len)
    (small : max + 2 + len + 2 < 2 ^ 63) (cr : b[max + 2 + len]? = some CR)
    (lf : b[max + 2 + len + 1]? = some LF)
    (inside : Terminable { m with bstart := max + 2, bend := max + 2 + len } b) :
    parseMsgPayload (max + 2) (.ofList b) m = .ok ⟨max + 2 + len + 2,
      { m with bstart := max + 2, bend := max + 2 + len },
      terminated { m with bstart := max + 2, bend := max + 2 + len } b⟩ := by
  obtain ⟨stop, next, whole⟩ := fits.ends
  have room := (List.getElem?_eq_some_iff.mp lf).1
  have enough : ¬b.length < max + 2 + len + 2 := by omega
  have rc : Word.signed (((max + 2 : Nat) : Int) + Word.signed len + 2) = max + 2 + len + 2 := by
    have exact := signed_of_small small
    rw [signed_of_small fits.signed]
    push_cast at exact ⊢
    exact exact
  obtain ⟨subject, replyto, bend⟩ := inside
  simp only [parseMsgPayload, length, whole, stop, next, ofList_len, ofList_data, enough,
    load_ok.mpr cr, load_ok.mpr lf, ne_eq, not_true_eq_false, bind, Except.bind, rc,
    store_inside 0 subject, terminated, ↓reduceIte]
  by_cases reply : 0 < m.replyto.len
  · simp only [reply, ↓reduceIte]
    rw [store_inside 0 (by simpa using replyto reply)]
    simp only
    rw [store_inside 0 (by simpa using bend)]
    rfl
  · simp only [reply, ↓reduceIte, pure, Except.pure]
    rw [store_inside 0 (by simpa using bend)]

end Payload

/-- What the MSG parser does when every declared length fits. -/
theorem parseMsg_outcome {b : List UInt8} {headerLen : Nat} (small : b.length < 2 ^ 63)
    (inside : headerLen < b.length) {m : Msg} (fresh : m.replyto.len = 0)
    (fits : ∀ max tokens, MsgLine headerLen b max tokens → LenFits max (tokens.lenValue b)) :
    ∃ parsed, Outcome (fun bytes => parseMsg bytes headerLen m) b parsed fun parsed =>
      ∃ max tokens, MsgFrame headerLen b m max tokens parsed := by
  rcases parseMsg_cases inside m with ⟨parsed, outcome⟩ | ⟨max, tokens, line⟩
  · exact ⟨parsed, outcome.weaken fun never => never.elim⟩
  · have fits := fits max tokens line
    have run (more : List UInt8) : parseMsg (.ofList (b ++ more)) headerLen m =
        parseMsgPayload (max + 2) (.ofList (b ++ more))
          (tokens.formed b { m with type := .msg }) := by
      rw [(line.append more).parseMsg_eq m, line.formed_append]
    have length : (tokens.formed b { m with type := .msg }).len =
        Word.signed (tokens.lenValue b) := by simp only [MsgTokens.formed]
    by_cases short : b.length < max + 2 + tokens.lenValue b + 2
    · refine ⟨⟨protoAgain, tokens.formed b { m with type := .msg }, b⟩, .again ?_⟩
      exact (line.parseMsg_eq m).trans (parseMsgPayload_again fits.ends length short)
    · have room : max + 2 + tokens.lenValue b + 2 ≤ b.length := by omega
      by_cases ended : b[max + 2 + tokens.lenValue b]? = some CR ∧
          b[max + 2 + tokens.lenValue b + 1]? = some LF
      · have terminable : Terminable (tokens.accepted b max m) b := line.terminable fresh room
        have step (more : List UInt8) : parseMsg (.ofList (b ++ more)) headerLen m =
            .ok ⟨max + 2 + tokens.lenValue b + 2, tokens.accepted b max m,
              terminated (tokens.accepted b max m) b ++ more⟩ := by
          rw [run more, ← terminated_append terminable more]
          refine parseMsgPayload_accepted fits length (by omega) ?_ ?_ (terminable.append more)
          · rw [List.getElem?_append_left (by omega)]
            exact ended.1
          · rw [List.getElem?_append_left (by omega)]
            exact ended.2
        refine ⟨⟨max + 2 + tokens.lenValue b + 2, tokens.accepted b max m,
          terminated (tokens.accepted b max m) b⟩, by simpa using step [], fun _ => step,
          fun absurd => ?_, fun _ => ⟨max, tokens, line, fits, room, ended.1, ended.2, rfl⟩⟩
        simp only at absurd
        omega
      · refine ⟨⟨protoErrInvalidMsg, tokens.formed b { m with type := .msg }, b⟩,
          .error (by decide) fun more => ?_⟩
        rw [run more]
        refine parseMsgPayload_refused fits.ends length (by rw [List.length_append]; omega) ?_
        rw [List.getElem?_append_left (by omega), List.getElem?_append_left (by omega)]
        exact ended

end NgxNats
