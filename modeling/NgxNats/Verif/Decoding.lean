import NgxNats.Verif.Soundness

/-!
# MSG frames as they are written

A server writes a MSG frame as words with spaces between them, a line end, the payload and a
second line end. The tokens of such a header are found where they were written, so the parser
returns what was written; before the last byte has arrived it asks for more.
-/
namespace NgxNats

/-- A word of a header: not empty, without space and CR, and not starting with a quote. -/
structure HeaderWord (word : List UInt8) : Prop where
  nonempty : word ≠ []
  plain : ∀ c ∈ word, c ≠ SP ∧ c ≠ CR
  unquoted : ∀ c ∈ word.head?, c ≠ 39 ∧ c ≠ 34

/-- Spaces. -/
def blanks (count : Nat) : List UInt8 := List.replicate count SP

variable {data : List UInt8} {pos max count : Nat}

/-- A run of spaces is skipped. -/
theorem scan_blanks {rest : List UInt8} {left : Nat} (split : data.drop pos = blanks count ++ rest)
    (fits : count ≤ left) (stops : count < left → ∃ c ∈ rest.head?, c ≠ SP) :
    scan (· = SP) data left pos = .ok (pos + count) := by
  have length : (blanks count).length = count := List.length_replicate
  rw [← length]
  apply scan_prefix split
  · intro c inside
    exact decide_eq_true (List.eq_of_mem_replicate inside)
  · omega
  · intro inside
    obtain ⟨c, first, other⟩ := stops (by omega)
    exact ⟨c, first, decide_eq_false other⟩

/-- `_nats_token` finds the next word. -/
theorem natsToken_word {word rest : List UInt8} (is : HeaderWord word)
    (split : data.drop pos = blanks count ++ (word ++ rest))
    (ends : ∃ c ∈ rest.head?, c = SP ∨ c = CR) (bound : pos + count + word.length ≤ max) :
    natsToken data pos max =
      .ok ⟨some (pos + count + word.length), pos + count, pos + count + word.length⟩ := by
  have some_length := List.length_pos_of_ne_nil is.nonempty
  obtain ⟨c, tail, same⟩ := List.exists_cons_of_ne_nil is.nonempty
  have first := is.plain c (same ▸ List.mem_cons_self)
  have unquoted := is.unquoted c (by rw [same]; rfl)
  have skipped : scan (· = SP) data (max - pos) pos = .ok (pos + count) :=
    scan_blanks split (by omega) fun _ => ⟨c, by rw [same]; rfl, first.1⟩
  have there : data.drop (pos + count) = word ++ rest := by
    have length : (blanks count).length = count := List.length_replicate
    rw [← List.drop_drop, split, List.drop_left' length]
  have read : data[pos + count]? = some c := by
    rw [← List.head?_drop, there, same]
    rfl
  have stopped : scan (fun c => c ≠ SP && c ≠ CR) data (max - (pos + count)) (pos + count) =
      .ok (pos + count + word.length) := by
    apply scan_prefix there
    · intro other inside
      obtain ⟨noSpace, noCr⟩ := is.plain other inside
      simp [noSpace, noCr]
    · omega
    · intro _
      obtain ⟨d, after, separator⟩ := ends
      refine ⟨d, after, ?_⟩
      rcases separator with rfl | rfl
      · rfl
      · rfl
  unfold natsToken
  rw [skipped]
  simp only [bind, Except.bind]
  rw [if_neg (by omega), load_ok.mpr read]
  simp only
  rw [if_neg (by tauto), stopped]
  rfl

/-- `_nats_token` finds no word before the line end. -/
theorem natsToken_none {rest : List UInt8} (split : data.drop pos = blanks count ++ rest)
    (last : pos + count = max) : natsToken data pos max = .ok ⟨some max, max, max⟩ := by
  have skipped : scan (· = SP) data (max - pos) pos = .ok (pos + count) :=
    scan_blanks split (by omega) fun less => by omega
  unfold natsToken
  rw [skipped]
  simp only [bind, Except.bind]
  rw [if_pos last]
  rfl

/-- What stands behind a word. -/
theorem drop_word {word rest : List UInt8}
    (split : data.drop pos = blanks count ++ (word ++ rest)) :
    data.drop (pos + count + word.length) = rest := by
  have length : (blanks count).length = count := List.length_replicate
  rw [Nat.add_assoc, ← List.drop_drop, split, ← List.append_assoc,
    List.drop_left' (by rw [List.length_append, length])]

/-- The slice of a word. -/
theorem bytes_word {word rest : List UInt8}
    (split : data.drop pos = blanks count ++ (word ++ rest)) :
    Slice.bytes ⟨pos + count, word.length⟩ data = word := by
  have length : (blanks count).length = count := List.length_replicate
  unfold Slice.bytes
  rw [← List.drop_drop, split, List.drop_left' length, List.take_left]

/-- A number as it is written: decimal digits. -/
structure Number (word : List UInt8) : Prop where
  nonempty : word ≠ []
  digits : ∀ c ∈ word, IsDigit c

/-- A digit is a byte of a word, and no quote. -/
theorem IsDigit.plain {c : UInt8} (digit : IsDigit c) : (c ≠ SP ∧ c ≠ CR) ∧ c ≠ 39 ∧ c ≠ 34 := by
  refine ⟨⟨?_, ?_⟩, ?_, ?_⟩
  all_goals
    rintro rfl
    exact absurd digit (by decide)

/-- A number is a word. -/
theorem Number.word {word : List UInt8} (number : Number word) : HeaderWord word where
  nonempty := number.nonempty
  plain c inside := (IsDigit.plain (number.digits c inside)).1
  unquoted c first := (IsDigit.plain (number.digits c (List.mem_of_mem_head? first))).2

/-- The codes of the digits. -/
theorem digit_range {c : Char} (digit : c.isDigit = true) : 48 ≤ c.toNat ∧ c.toNat ≤ 57 :=
  Char.isDigit_iff_toNat.mp digit

/-- The value of characters that are digits is that of their bytes. -/
theorem decimalFrom_chars {chars : List Char} (digits : ∀ c ∈ chars, c.isDigit = true)
    (value : Nat) : decimalFrom value (chars.map fun c => c.toNat.toUInt8) =
      Nat.ofDigitChars 10 chars value := by
  induction chars generalizing value with
  | nil => rfl
  | cons c chars ih =>
    have rest := ih fun other inside => digits other (List.mem_cons_of_mem c inside)
    have range := digit_range (digits c List.mem_cons_self)
    have byte : c.toNat.toUInt8.toNat = c.toNat := by
      rw [Nat.toUInt8, UInt8.toNat_ofNat']
      omega
    rw [Nat.ofDigitChars_cons, List.map_cons, decimalFrom, List.foldl_cons, byte]
    have zero : '0'.toNat = 48 := rfl
    rw [zero, Nat.mul_comm 10, ← rest]
    rfl

/-- A printed number is read back. -/
theorem decimalValue_decimal (value : Nat) : decimalValue (decimal value) = value := by
  unfold decimalValue decimal
  rw [decimalFrom_chars fun c inside => Nat.isDigit_of_mem_toDigits (by decide) (by decide) inside]
  exact Nat.ofDigitChars_ten_toDigits

/-- A printed number is a number. -/
theorem number_decimal (value : Nat) : Number (decimal value) where
  nonempty := by
    unfold decimal
    rw [ne_eq, List.map_eq_nil_iff]
    exact Nat.toDigits_ne_nil
  digits c inside := by
    obtain ⟨char, found, rfl⟩ := List.mem_map.mp inside
    have digit := Nat.isDigit_of_mem_toDigits (by decide) (by decide) found
    have range := digit_range digit
    unfold IsDigit
    rw [UInt8.le_iff_toNat_le, UInt8.le_iff_toNat_le, Nat.toUInt8, UInt8.toNat_ofNat']
    show 48 ≤ _ ∧ _ ≤ 57
    omega

/-- A MSG frame as a server writes it: the keyword in any case, words with at least one space
before each, any number of spaces before the line end, and the length of the payload. -/
structure WireMsg where
  keyword : List UInt8
  subject : List UInt8
  sid : List UInt8
  replyto : Option (List UInt8)
  len : List UInt8
  payload : List UInt8
  beforeSubject : Nat
  beforeSid : Nat
  beforeReplyto : Nat
  beforeLen : Nat
  behindLen : Nat
  keyword_msg : keyword.map toLower = ascii "msg"
  subject_word : HeaderWord subject
  sid_number : Number sid
  sid_fits : decimalValue sid < 2 ^ 63
  replyto_word : ∀ word ∈ replyto, HeaderWord word
  len_number : Number len
  len_value : decimalValue len = payload.length
  spaced : 0 < beforeSubject ∧ 0 < beforeSid ∧ 0 < beforeReplyto ∧ 0 < beforeLen

/-- The frame of a server that prints single spaces, an upper-case keyword and plain decimal
numbers. -/
def WireMsg.printed (subject : List UInt8) (sid : Nat) (replyto : Option (List UInt8))
    (payload : List UInt8) (subject_word : HeaderWord subject) (sid_fits : sid < 2 ^ 63)
    (replyto_word : ∀ word ∈ replyto, HeaderWord word) : WireMsg where
  keyword := ascii "MSG"
  subject := subject
  sid := decimal sid
  replyto := replyto
  len := decimal payload.length
  payload := payload
  beforeSubject := 1
  beforeSid := 1
  beforeReplyto := 1
  beforeLen := 1
  behindLen := 0
  keyword_msg := by decide
  subject_word := subject_word
  sid_number := number_decimal sid
  sid_fits := by
    rw [decimalValue_decimal]
    exact sid_fits
  replyto_word := replyto_word
  len_number := number_decimal payload.length
  len_value := decimalValue_decimal payload.length
  spaced := by decide

namespace WireMsg

variable (wire : WireMsg)

/-- The reply-to with the spaces before it, if there is one. -/
def answer : List UInt8 :=
  match wire.replyto with
  | none => []
  | some word => blanks wire.beforeReplyto ++ word

/-- The header line. -/
def header : List UInt8 :=
  wire.keyword ++ (blanks wire.beforeSubject ++ (wire.subject ++ (blanks wire.beforeSid ++
    (wire.sid ++
    (wire.answer ++ (blanks wire.beforeLen ++ (wire.len ++ blanks wire.behindLen)))))))

/-- The whole frame. -/
def frame : List UInt8 := wire.header ++ CR :: LF :: (wire.payload ++ [CR, LF])

/-- Where the subject ends. -/
def subjectStop : Nat := 3 + wire.beforeSubject + wire.subject.length
/-- Where the sid ends. -/
def sidStop : Nat := wire.subjectStop + wire.beforeSid + wire.sid.length
/-- Where the length starts to be looked for. -/
def answerStop : Nat := wire.sidStop + wire.answer.length

/-- The slices of the words. -/
def tokens : MsgTokens where
  subject := ⟨3 + wire.beforeSubject, wire.subject.length⟩
  sid := ⟨wire.subjectStop + wire.beforeSid, wire.sid.length⟩
  replyto := wire.replyto.map fun word => ⟨wire.sidStop + wire.beforeReplyto, word.length⟩
  len := ⟨wire.answerStop + wire.beforeLen, wire.len.length⟩

/-- The keyword has three letters. -/
theorem keyword_length : wire.keyword.length = 3 := by
  rw [← List.length_map (f := toLower), wire.keyword_msg]
  decide

/-- The length of the header. -/
theorem header_length :
    wire.header.length = wire.answerStop + wire.beforeLen + wire.len.length + wire.behindLen := by
  unfold header answerStop sidStop subjectStop
  simp only [List.length_append, blanks, List.length_replicate, wire.keyword_length]
  omega

section Header

variable {wire} {more : List UInt8}

/-- What stands behind the keyword. -/
theorem drop_keyword : (wire.header ++ CR :: LF :: more).drop 3 =
    blanks wire.beforeSubject ++ (wire.subject ++ (blanks wire.beforeSid ++ (wire.sid ++
      (wire.answer ++ (blanks wire.beforeLen ++ (wire.len ++ (blanks wire.behindLen ++
        CR :: LF :: more))))))) := by
  unfold header
  simp only [List.append_assoc]
  exact List.drop_left' wire.keyword_length

/-- What stands behind the subject. -/
theorem drop_subject : (wire.header ++ CR :: LF :: more).drop wire.subjectStop =
    blanks wire.beforeSid ++ (wire.sid ++ (wire.answer ++ (blanks wire.beforeLen ++ (wire.len ++
      (blanks wire.behindLen ++ CR :: LF :: more))))) := drop_word drop_keyword

/-- What stands behind the sid. -/
theorem drop_sid : (wire.header ++ CR :: LF :: more).drop wire.sidStop =
    wire.answer ++ (blanks wire.beforeLen ++ (wire.len ++ (blanks wire.behindLen ++
      CR :: LF :: more))) := drop_word drop_subject

/-- What stands behind the reply-to, or behind the sid if there is none. -/
theorem drop_answer : (wire.header ++ CR :: LF :: more).drop wire.answerStop =
    blanks wire.beforeLen ++ (wire.len ++ (blanks wire.behindLen ++ CR :: LF :: more)) := by
  unfold answerStop
  rw [← List.drop_drop, drop_sid, List.drop_left]

/-- What stands behind the length. -/
theorem drop_len : (wire.header ++ CR :: LF :: more).drop
    (wire.answerStop + wire.beforeLen + wire.len.length) =
    blanks wire.behindLen ++ CR :: LF :: more := drop_word drop_answer

/-- Spaces come first where there are some. -/
theorem blanks_first {count : Nat} (positive : 0 < count) (rest : List UInt8) :
    ∃ c ∈ (blanks count ++ rest).head?, c = SP ∨ c = CR := by
  obtain ⟨fewer, rfl⟩ := Nat.exists_eq_succ_of_ne_zero (Nat.ne_of_gt positive)
  exact ⟨SP, rfl, Or.inl rfl⟩

/-- A space or the line end stands behind the length. -/
theorem behind_first :
    ∃ c ∈ (blanks wire.behindLen ++ CR :: LF :: more).head?, c = SP ∨ c = CR := by
  by_cases some : 0 < wire.behindLen
  · exact blanks_first some _
  · have none : wire.behindLen = 0 := by omega
    rw [none]
    exact ⟨CR, rfl, Or.inr rfl⟩

/-- The subject is found. -/
theorem subject_token : natsToken (wire.header ++ CR :: LF :: more) 3 wire.header.length =
    .ok ⟨some wire.subjectStop, 3 + wire.beforeSubject, wire.subjectStop⟩ := by
  apply natsToken_word wire.subject_word drop_keyword
  · exact blanks_first wire.spaced.2.1 _
  · rw [header_length]
    unfold answerStop sidStop subjectStop
    omega

/-- The sid is found. -/
theorem sid_token :
    natsToken (wire.header ++ CR :: LF :: more) wire.subjectStop wire.header.length =
    .ok ⟨some wire.sidStop, wire.subjectStop + wire.beforeSid, wire.sidStop⟩ := by
  apply natsToken_word wire.sid_number.word drop_subject
  · unfold answer
    split
    · exact blanks_first wire.spaced.2.2.2 _
    · rw [List.append_assoc]
      exact blanks_first wire.spaced.2.2.1 _
  · rw [header_length]
    unfold answerStop sidStop
    omega

/-- The length is found behind the reply-to. -/
theorem len_token : natsToken (wire.header ++ CR :: LF :: more) wire.answerStop wire.header.length =
    .ok ⟨some (wire.answerStop + wire.beforeLen + wire.len.length),
      wire.answerStop + wire.beforeLen, wire.answerStop + wire.beforeLen + wire.len.length⟩ := by
  apply natsToken_word wire.len_number.word drop_answer behind_first
  rw [header_length]
  omega

/-- No word is found behind the length. -/
theorem last_token : natsToken (wire.header ++ CR :: LF :: more)
    (wire.answerStop + wire.beforeLen + wire.len.length) wire.header.length =
      .ok ⟨some wire.header.length, wire.header.length, wire.header.length⟩ :=
  natsToken_none drop_len wire.header_length.symm

/-- No word is found at the line end. -/
theorem end_token : natsToken (wire.header ++ CR :: LF :: more) wire.header.length
    wire.header.length = .ok ⟨some wire.header.length, wire.header.length, wire.header.length⟩ := by
  have split : (wire.header ++ CR :: LF :: more).drop wire.header.length =
      blanks 0 ++ CR :: LF :: more := List.drop_left
  exact natsToken_none split (Nat.add_zero _)

/-- Where a reply-to ends. -/
theorem answerStop_some {word : List UInt8} (given : wire.replyto = some word) :
    wire.answerStop = wire.sidStop + wire.beforeReplyto + word.length := by
  unfold answerStop answer
  rw [given]
  simp only [blanks, List.length_append, List.length_replicate]
  omega

/-- The end of the header is the reply-to, if there is one, and the length. -/
theorem parseMsgLast_wire : parseMsgLast (wire.header ++ CR :: LF :: more) wire.sidStop
    wire.header.length = .ok (some (wire.tokens.replyto, wire.tokens.len)) := by
  have lenPositive := List.length_pos_of_ne_nil wire.len_number.nonempty
  have length := wire.header_length
  unfold parseMsgLast
  cases given : wire.replyto with
  | none =>
    -- the third token is the length
    have stop : wire.answerStop = wire.sidStop := by
      unfold answerStop answer
      rw [given]
      rfl
    have third := @len_token wire more
    have fourth := @last_token wire more
    rw [stop] at third fourth
    simp only [third, bind, Except.bind]
    rw [if_neg (by omega)]
    have tokens : wire.tokens.replyto = none ∧
        wire.tokens.len = ⟨wire.sidStop + wire.beforeLen, wire.len.length⟩ := by
      unfold WireMsg.tokens
      rw [given, stop]
      exact ⟨rfl, rfl⟩
    rw [tokens.1, tokens.2]
    have size : wire.sidStop + wire.beforeLen + wire.len.length - (wire.sidStop + wire.beforeLen) =
        wire.len.length := Nat.add_sub_cancel_left _ _
    by_cases more_spaces : wire.sidStop + wire.beforeLen + wire.len.length < wire.header.length
    · rw [if_pos more_spaces]
      simp only [fourth, end_token, Nat.lt_irrefl, or_self, if_false, size]
      rfl
    · rw [if_neg more_spaces, size]
      rfl
  | some word =>
    -- the third token is the reply-to and the fourth one the length
    have is := wire.replyto_word word given
    have wordPositive := List.length_pos_of_ne_nil is.nonempty
    have stop := answerStop_some given
    have split : (wire.header ++ CR :: LF :: more).drop wire.sidStop =
        blanks wire.beforeReplyto ++ (word ++ (blanks wire.beforeLen ++ (wire.len ++
          (blanks wire.behindLen ++ CR :: LF :: more)))) := by
      rw [drop_sid]
      unfold answer
      rw [given]
      simp only [List.append_assoc]
    have bound : wire.sidStop + wire.beforeReplyto + word.length ≤ wire.header.length := by omega
    have third := natsToken_word is split (blanks_first wire.spaced.2.2.2 _) bound
    have fourth := @len_token wire more
    have fifth := @last_token wire more
    rw [← stop] at third
    simp only [third, bind, Except.bind]
    rw [if_neg (by omega), if_pos (by omega)]
    simp only [fourth, fifth, Nat.lt_irrefl, or_self, if_false]
    rw [if_pos (by omega)]
    have tokens : wire.tokens.replyto = some ⟨wire.sidStop + wire.beforeReplyto, word.length⟩ := by
      unfold WireMsg.tokens
      rw [given]
      rfl
    rw [tokens]
    have first : wire.answerStop - (wire.sidStop + wire.beforeReplyto) = word.length := by omega
    have second : wire.answerStop + wire.beforeLen + wire.len.length -
        (wire.answerStop + wire.beforeLen) = wire.len.length := Nat.add_sub_cancel_left _ _
    rw [first, second]
    rfl

/-- The words of a header are found where they were written. -/
theorem msgTokens_wire : msgTokens (wire.header ++ CR :: LF :: more) 3 wire.header.length =
    .ok (some wire.tokens) := by
  have subjectPositive := List.length_pos_of_ne_nil wire.subject_word.nonempty
  have sidPositive := List.length_pos_of_ne_nil wire.sid_number.nonempty
  have lenPositive := List.length_pos_of_ne_nil wire.len_number.nonempty
  have length := wire.header_length
  have first : wire.subjectStop = 3 + wire.beforeSubject + wire.subject.length := rfl
  have second : wire.sidStop = wire.subjectStop + wire.beforeSid + wire.sid.length := rfl
  have third : wire.answerStop = wire.sidStop + wire.answer.length := rfl
  unfold msgTokens
  simp only [subject_token, bind, Except.bind]
  rw [if_neg (by omega)]
  simp only [sid_token]
  rw [if_neg (by omega)]
  simp only [parseMsgLast_wire]
  have subjectSize : wire.subjectStop - (3 + wire.beforeSubject) = wire.subject.length := by omega
  have sidSize : wire.sidStop - (wire.subjectStop + wire.beforeSid) = wire.sid.length := by omega
  rw [subjectSize, sidSize]
  rfl

/-- No byte of the header is a CR. -/
theorem header_no_cr : CR ∉ wire.header := by
  have keyword : CR ∉ wire.keyword := by
    intro inside
    have letter := List.mem_map_of_mem (f := toLower) inside
    rw [wire.keyword_msg] at letter
    exact absurd letter (by decide)
  have blank (count : Nat) : CR ∉ blanks count := fun inside =>
    absurd (List.eq_of_mem_replicate inside) (by decide)
  have word {text : List UInt8} (is : HeaderWord text) : CR ∉ text := fun inside =>
    (is.plain CR inside).2 rfl
  have answer : CR ∉ wire.answer := by
    unfold WireMsg.answer
    cases given : wire.replyto with
    | none => exact List.not_mem_nil
    | some text =>
      intro inside
      rcases List.mem_append.mp inside with early | late
      · exact blank _ early
      · exact word (wire.replyto_word text given) late
  unfold header
  simp only [List.mem_append, not_or]
  exact ⟨keyword, blank _, word wire.subject_word, blank _, word wire.sid_number.word, answer,
    blank _, word wire.len_number.word, blank _⟩

/-- A written header is a header line with the words as its tokens. -/
theorem line : MsgLine 3 (wire.header ++ CR :: LF :: more) wire.header.length wire.tokens where
  space := by
    rw [← List.head?_drop, drop_keyword]
    obtain ⟨fewer, same⟩ := Nat.exists_eq_succ_of_ne_zero (Nat.ne_of_gt wire.spaced.1)
    rw [same]
    rfl
  start := by
    rw [header_length]
    unfold answerStop sidStop subjectStop
    omega
  first i low high is := by
    rw [List.getElem?_append_left high] at is
    exact header_no_cr (List.mem_of_getElem? is)
  cr := by
    rw [List.getElem?_append_right (Nat.le_refl _), Nat.sub_self]
    rfl
  lf := by
    have next : wire.header.length + 1 - wire.header.length = 1 := by omega
    rw [List.getElem?_append_right (Nat.le_succ _), next]
    rfl
  found := msgTokens_wire
  sid_digits := by
    have text : wire.tokens.sid.bytes (wire.header ++ CR :: LF :: more) = wire.sid :=
      bytes_word drop_subject
    rw [text]
    exact wire.sid_number.digits
  len_digits := by
    have text : wire.tokens.len.bytes (wire.header ++ CR :: LF :: more) = wire.len :=
      bytes_word drop_answer
    rw [text]
    exact wire.len_number.digits

/-- The keyword stands in front. -/
theorem keyword_first : strncasecmp ((wire.header ++ CR :: LF :: more).take 3) "MSG" = true := by
  have first : (wire.header ++ CR :: LF :: more).take 3 = wire.keyword := by
    unfold header
    rw [List.append_assoc, List.take_left' wire.keyword_length]
  rw [first]
  unfold strncasecmp
  rw [wire.keyword_msg]
  decide

/-- A written header is a header line of the parser. -/
theorem frameLine : FrameLine (wire.header ++ CR :: LF :: more) wire.header.length wire.tokens :=
  ⟨keyword_first, line⟩

/-- The declared numbers are those that were written. -/
theorem values : wire.tokens.sidValue (wire.header ++ CR :: LF :: more) = decimalValue wire.sid ∧
    wire.tokens.lenValue (wire.header ++ CR :: LF :: more) = wire.payload.length := by
  have sid : wire.tokens.sid.bytes (wire.header ++ CR :: LF :: more) = wire.sid :=
    bytes_word drop_subject
  have len : wire.tokens.len.bytes (wire.header ++ CR :: LF :: more) = wire.len :=
    bytes_word drop_answer
  unfold MsgTokens.sidValue MsgTokens.lenValue
  rw [sid, len, wire.len_value]
  exact ⟨rfl, rfl⟩

end Header

/-- The frame is its header, a line end and the payload with another line end. -/
theorem frame_append (t : List UInt8) :
    wire.frame ++ t = wire.header ++ CR :: LF :: (wire.payload ++ CR :: LF :: t) := by
  unfold frame
  simp only [List.append_assoc, List.cons_append, List.nil_append]

/-- The length of the frame. -/
theorem frame_length :
    wire.frame.length = wire.header.length + 2 + wire.payload.length + 2 := by
  unfold frame
  simp only [List.length_append, List.length_cons, List.length_nil]
  omega

/-- The message the parser returns for a frame. -/
def message (b : List UInt8) : Msg := wire.tokens.accepted b wire.header.length {}

/-- A whole frame is accepted, whatever follows it. -/
theorem parse_frame (t : List UInt8) (small : (wire.frame ++ t).length < 2 ^ 63) :
    parse (.ofList (wire.frame ++ t)) = .ok ⟨wire.frame.length, wire.message (wire.frame ++ t),
      terminated (wire.message (wire.frame ++ t)) (wire.frame ++ t)⟩ := by
  have length := wire.frame_length
  have shape := wire.frame_append t
  rw [List.length_append] at small
  have frameLine : FrameLine (wire.frame ++ t) wire.header.length wire.tokens := by
    rw [shape]
    exact frameLine
  have declared : wire.tokens.lenValue (wire.frame ++ t) = wire.payload.length := by
    rw [shape]
    exact values.2
  have fits : LenFits wire.header.length (wire.tokens.lenValue (wire.frame ++ t)) := by
    rw [declared]
    exact ⟨by omega, by omega⟩
  have behind : (wire.frame ++ t).drop (wire.header.length + 2 + wire.payload.length) =
      CR :: LF :: t := by
    rw [shape, ← List.drop_drop, ← List.drop_drop, List.drop_left]
    exact List.drop_left
  have inside : wire.header.length + 2 + wire.tokens.lenValue (wire.frame ++ t) + 2 ≤
      (wire.frame ++ t).length := by
    rw [declared, List.length_append]
    omega
  have length_eq : (wire.tokens.formed (wire.frame ++ t) { type := .msg }).len =
      Word.signed (wire.tokens.lenValue (wire.frame ++ t)) := by
    simp only [MsgTokens.formed]
  have terminable : Terminable (wire.message (wire.frame ++ t)) (wire.frame ++ t) :=
    frameLine.line.terminable rfl inside
  rw [frameLine.parse_eq, parseMsgPayload_accepted fits length_eq ?_ ?_ ?_ terminable]
  · rw [declared]
    unfold message MsgTokens.accepted
    rw [declared, length]
    push_cast
    rfl
  · rw [declared]
    omega
  · rw [declared, ← List.head?_drop, behind]
    rfl
  · rw [declared, ← List.head?_drop, ← List.drop_drop, behind]
    rfl

end WireMsg

/-- A position that is not in a slice. -/
def Slice.Avoids (slice : Slice) (i : Nat) : Prop := i < slice.start ∨ slice.stop ≤ i

/-- A byte written outside a slice does not change it. -/
theorem Slice.bytes_set {slice : Slice} {i : Nat} (c : UInt8) (avoids : slice.Avoids i) :
    slice.bytes (data.set i c) = slice.bytes data := by
  unfold Slice.bytes
  apply List.ext_getElem?
  intro j
  rw [List.getElem?_take, List.getElem?_take, List.getElem?_drop, List.getElem?_drop]
  by_cases early : j < slice.len
  · have other : i ≠ slice.start + j := by
      unfold Slice.Avoids Slice.stop at avoids
      omega
    rw [List.getElem?_set_ne other]
  · rw [if_neg early, if_neg early]

/-- The terminators of an accepted frame do not change a slice that avoids them. -/
theorem Slice.bytes_terminated {slice : Slice} {m : Msg}
    (subject : slice.Avoids (m.subject.start + m.subject.len))
    (replyto : 0 < m.replyto.len → slice.Avoids (m.replyto.start + m.replyto.len))
    (bend : slice.Avoids m.bend) : slice.bytes (terminated m data) = slice.bytes data := by
  unfold terminated
  rw [Slice.bytes_set 0 bend]
  by_cases reply : 0 < m.replyto.len
  · rw [if_pos reply, Slice.bytes_set 0 (replyto reply), Slice.bytes_set 0 subject]
  · rw [if_neg reply, Slice.bytes_set 0 subject]

/-- The parsed message is the one that was written. -/
structure WireMsg.Decoded (wire : WireMsg) (parsed : Parsed) : Prop where
  type : parsed.msg.type = .msg
  sid : parsed.msg.sid = decimalValue wire.sid
  subject : parsed.msg.subject.bytes parsed.data = wire.subject
  replyto : parsed.msg.replyto.bytes parsed.data = wire.replyto.getD []
  unanswered : parsed.msg.replyto.len = 0 ↔ wire.replyto = none
  ordered : parsed.msg.bstart ≤ parsed.msg.bend
  body : Slice.bytes ⟨parsed.msg.bstart, parsed.msg.bend - parsed.msg.bstart⟩ parsed.data =
    wire.payload

namespace WireMsg

variable (wire : WireMsg) (t : List UInt8)

variable {wire} in
/-- The message of a frame without a reply-to. -/
theorem replyto_none (given : wire.replyto = none) (b : List UInt8) :
    (wire.message b).replyto = ⟨0, 0⟩ := by
  show wire.tokens.replyto.getD ⟨0, 0⟩ = ⟨0, 0⟩
  unfold WireMsg.tokens
  rw [given]
  rfl

variable {wire} in
/-- The message of a frame with a reply-to. -/
theorem replyto_some {word : List UInt8} (given : wire.replyto = some word) (b : List UInt8) :
    (wire.message b).replyto = ⟨wire.sidStop + wire.beforeReplyto, word.length⟩ := by
  show wire.tokens.replyto.getD ⟨0, 0⟩ = _
  unfold WireMsg.tokens
  rw [given]
  rfl

/-- A slice without the three terminated positions is unchanged. -/
theorem bytes_parsed {slice : Slice} {b : List UInt8} (subject : slice.Avoids wire.subjectStop)
    (answer : slice.Avoids wire.answerStop ∨ (wire.message b).replyto.len = 0)
    (payload : slice.Avoids (wire.header.length + 2 + wire.tokens.lenValue b)) :
    slice.bytes (terminated (wire.message b) b) = slice.bytes b := by
  apply Slice.bytes_terminated
  · exact subject
  · intro answered
    cases given : wire.replyto with
    | none =>
      rw [wire.replyto_none given] at answered
      exact absurd answered (Nat.lt_irrefl 0)
    | some word =>
      rw [wire.replyto_some given] at answered ⊢
      rw [← answerStop_some given]
      rcases answer with avoids | unanswered
      · exact avoids
      · rw [wire.replyto_some given] at unanswered
        exact absurd unanswered (Nat.ne_of_gt answered)
  · exact payload

/-- The parser returns what was written. -/
theorem decoded : wire.Decoded ⟨wire.frame.length, wire.message (wire.frame ++ t),
    terminated (wire.message (wire.frame ++ t)) (wire.frame ++ t)⟩ := by
  have shape := wire.frame_append t
  have length := wire.header_length
  have subjectPositive := List.length_pos_of_ne_nil wire.subject_word.nonempty
  have sidPositive := List.length_pos_of_ne_nil wire.sid_number.nonempty
  have subjectStop : wire.subjectStop = 3 + wire.beforeSubject + wire.subject.length := rfl
  have sidStop : wire.sidStop = wire.subjectStop + wire.beforeSid + wire.sid.length := rfl
  have answerStop : wire.answerStop = wire.sidStop + wire.answer.length := rfl
  have numbers : wire.tokens.sidValue (wire.frame ++ t) = decimalValue wire.sid ∧
      wire.tokens.lenValue (wire.frame ++ t) = wire.payload.length := by
    rw [shape]
    exact values
  constructor
  · rfl
  · have sid : (wire.message (wire.frame ++ t)).sid =
        Word.signed (wire.tokens.sidValue (wire.frame ++ t)) := by
      simp only [message, MsgTokens.accepted, MsgTokens.formed]
    simp only [sid, numbers.1]
    exact signed_of_small wire.sid_fits
  · show Slice.bytes ⟨3 + wire.beforeSubject, wire.subject.length⟩ _ = wire.subject
    rw [wire.bytes_parsed]
    · rw [shape]
      exact bytes_word drop_keyword
    · exact Or.inr (Nat.le_refl _)
    · left
      right
      simp only [Slice.stop]
      omega
    · right
      simp only [Slice.stop]
      omega
  · show (wire.message (wire.frame ++ t)).replyto.bytes _ = wire.replyto.getD []
    cases given : wire.replyto with
    | none =>
      rw [replyto_none given]
      exact List.take_zero
    | some word =>
      have stop := answerStop_some given
      rw [replyto_some given, wire.bytes_parsed]
      · have split : (wire.frame ++ t).drop wire.sidStop =
            blanks wire.beforeReplyto ++ (word ++ (blanks wire.beforeLen ++ (wire.len ++
              (blanks wire.behindLen ++ CR :: LF :: (wire.payload ++ CR :: LF :: t))))) := by
          rw [shape, drop_sid]
          unfold answer
          rw [given]
          simp only [List.append_assoc]
        exact bytes_word split
      · left
        show wire.subjectStop < wire.sidStop + wire.beforeReplyto
        omega
      · left
        right
        exact Nat.le_of_eq stop.symm
      · right
        show wire.sidStop + wire.beforeReplyto + word.length ≤ _
        omega
  · show (wire.message (wire.frame ++ t)).replyto.len = 0 ↔ wire.replyto = none
    cases given : wire.replyto with
    | none =>
      rw [replyto_none given]
      exact ⟨fun _ => rfl, fun _ => rfl⟩
    | some word =>
      have wordPositive := List.length_pos_of_ne_nil (wire.replyto_word word given).nonempty
      rw [replyto_some given]
      constructor
      · intro empty
        exact absurd empty (Nat.ne_of_gt wordPositive)
      · intro absurd
        cases absurd
  · show wire.header.length + 2 ≤ wire.header.length + 2 + _
    omega
  · have size : wire.header.length + 2 + wire.tokens.lenValue (wire.frame ++ t) -
        (wire.header.length + 2) = wire.payload.length := by omega
    show Slice.bytes ⟨wire.header.length + 2, wire.header.length + 2 +
      wire.tokens.lenValue (wire.frame ++ t) - (wire.header.length + 2)⟩ _ = wire.payload
    rw [size, wire.bytes_parsed]
    · unfold Slice.bytes
      rw [shape, ← List.drop_drop, List.drop_left]
      exact List.take_left
    · left
      show wire.subjectStop < wire.header.length + 2
      omega
    · left
      left
      show wire.answerStop < wire.header.length + 2
      omega
    · right
      show wire.header.length + 2 + wire.payload.length ≤ _
      omega

end WireMsg

/-- A buffer starts with at most one MSG header line. -/
theorem MsgLine.unique {b : List UInt8} {headerLen max max' : Nat} {tokens tokens' : MsgTokens}
    (line : MsgLine headerLen b max tokens) (line' : MsgLine headerLen b max' tokens') :
    max = max' ∧ tokens = tokens' := by
  have same : max = max' := by
    rcases Nat.lt_trichotomy max max' with less | same | more
    · exact absurd line.cr (line'.first max line.start less)
    · exact same
    · exact absurd line'.cr (line.first max' line'.start more)
  subst same
  have found := line.found
  rw [line'.found, Except.ok.injEq, Option.some.injEq] at found
  exact ⟨rfl, found.symm⟩

namespace WireMsg

/-- A frame that has not arrived as a whole makes the parser ask for more. -/
theorem parse_prefix {wire : WireMsg} (small : wire.frame.length < 2 ^ 63) {p : List UInt8}
    (early : p <+: wire.frame) (proper : p ≠ wire.frame) :
    ∃ parsed, parse (.ofList p) = .ok parsed ∧ parsed.rc = protoAgain := by
  obtain ⟨rest, whole⟩ := early
  have shorter : p.length < wire.frame.length := by
    rw [← whole, List.length_append]
    have some : rest ≠ [] := by
      intro none
      rw [none, List.append_nil] at whole
      exact proper whole
    have positive := List.length_pos_of_ne_nil some
    omega
  have line : FrameLine wire.frame wire.header.length wire.tokens := frameLine
  have declared : wire.tokens.lenValue wire.frame = wire.payload.length := values.2
  have length := wire.frame_length
  have fits : ∀ max tokens, FrameLine p max tokens → LenFits max (tokens.lenValue p) := by
    intro max tokens short
    have long := short.line.append rest
    have value := short.line.lenValue_append rest
    rw [whole] at long value
    obtain ⟨rfl, rfl⟩ := long.unique line.line
    rw [← value, declared]
    exact ⟨by omega, by omega⟩
  obtain ⟨parsed, outcome⟩ := parse_outcome (by omega) fits
  refine ⟨parsed, outcome.returns, ?_⟩
  -- Any other result would be the one on the whole frame, which is longer than what has arrived.
  by_contra final
  have stable := outcome.stable final rest
  have accepted := wire.parse_frame [] (by rw [List.append_nil]; exact small)
  rw [List.append_nil] at accepted
  rw [whole, accepted, Except.ok.injEq] at stable
  have rc : parsed.rc = wire.frame.length := (congrArg Parsed.rc stable).symm
  have inside : (parsed.rc : Int) ≤ p.length := by
    apply Accepted.inside
    apply accepted_frame (outcome.accepted (by omega))
    intro max tokens _ short
    have long := short.line.append rest
    have value := short.line.sidValue_append rest
    rw [whole] at long value
    obtain ⟨rfl, rfl⟩ := long.unique line.line
    rw [← value]
    have sid : wire.tokens.sidValue wire.frame = decimalValue wire.sid := values.1
    rw [sid]
    exact wire.sid_fits
  omega

end WireMsg

/-- Decoding is complete. Whatever follows a frame, the parser consumes exactly the frame and
returns what was written; as long as a byte of it is missing, it asks for more. -/
theorem msg_complete (wire : WireMsg) (t : List UInt8) (small : (wire.frame ++ t).length < 2 ^ 63) :
    (∃ parsed, parse (.ofList (wire.frame ++ t)) = .ok parsed ∧
      parsed.rc = wire.frame.length ∧ wire.Decoded parsed) ∧
    ∀ p, p <+: wire.frame → p ≠ wire.frame →
      ∃ parsed, parse (.ofList p) = .ok parsed ∧ parsed.rc = protoAgain := by
  have short : wire.frame.length < 2 ^ 63 := by
    rw [List.length_append] at small
    omega
  exact ⟨⟨_, wire.parse_frame t small, rfl, wire.decoded t⟩,
    fun p early proper => WireMsg.parse_prefix short early proper⟩

/-- One letter is a word. -/
theorem headerWord_letter : HeaderWord (ascii "a") :=
  ⟨by decide, by decide +kernel, by decide +kernel⟩

/-- A payload that looks like a frame of its own is decoded, and what follows it is left. -/
theorem msg_complete_nested :
    let wire :=
      WireMsg.printed (ascii "a") 7 (some (ascii "a")) (ascii "PING\r\n") headerWord_letter
      (by decide) fun word inside => Option.mem_some.mp inside ▸ headerWord_letter
    (∃ parsed, parse (.ofList (wire.frame ++ ascii "PONG\r\n")) = .ok parsed ∧
      parsed.rc = wire.frame.length ∧ wire.Decoded parsed) ∧
    ∀ p, p <+: wire.frame → p ≠ wire.frame →
      ∃ parsed, parse (.ofList p) = .ok parsed ∧ parsed.rc = protoAgain :=
  msg_complete _ _ (by decide)

end NgxNats
