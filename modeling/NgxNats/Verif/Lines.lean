import NgxNats.Verif.Decoding

/-!
# Where a line message ends

`+OK`, `-ERR`, `PING`, `PONG` and `INFO` are lines: an accepted one should end at its own CR. The
keyword lines do. `ngx_nats_parse_err` and `ngx_nats_parse_info` skip spaces and start their search
for the CR one byte behind the first byte that is none, so on a line without a text they miss its
CR and go on to the next line.
-/
namespace NgxNats

variable {b : List UInt8} {parsed : Parsed}

/-- What is accepted starts with a word of three or four bytes, which the parser dispatches on. -/
theorem parse_word (run : parse (.ofList b) = .ok parsed) (accepted : 0 < parsed.rc) :
    ∃ p, (p = 3 ∨ p = 4) ∧ LeadWord b p ∧ parseKeyword (.ofList b) p {} = .ok parsed := by
  obtain ⟨p, lower, upper, scanned, passed, ended⟩ :=
    scan_list (fun c => c ≠ LF && c ≠ SP && c ≠ CR) b 0 b.length (Nat.zero_le _) (Nat.le_refl _)
  rw [Nat.sub_zero] at scanned
  by_cases last : b.length ≤ p
  · simp only [parse, ofList_len, ofList_data, scanned, bind, Except.bind, last, ↓reduceIte] at run
    cases run
    simp [protoAgain] at accepted
  · have room : p < b.length := by omega
    have separates := (ended room room).1
    by_cases lf : b[p] = LF
    · simp only [parse, ofList_len, ofList_data, scanned, bind, Except.bind, last,
        load_inside room, lf, ↓reduceIte] at run
      cases run
      simp [protoErrInvalidHeader] at accepted
    · simp only [parse, ofList_len, ofList_data, scanned, bind, Except.bind, last,
        load_inside room, lf, ↓reduceIte] at run
      have length : p = 3 ∨ p = 4 := by
        by_contra other
        obtain ⟨three, four⟩ := not_or.mp other
        simp only [parseKeyword, three, four, ↓reduceIte] at run
        cases run
        simp [protoErrInvalidHeader] at accepted
      refine ⟨p, length, ⟨fun i low => ?_, ?_⟩, run⟩
      · exact ⟨b[i], List.getElem?_eq_getElem (by omega), passed i (by omega) (Nat.zero_le i) low⟩
      · rw [List.getElem?_eq_getElem room]
        by_cases space : b[p] = SP
        · exact .inl (congrArg some space)
        · exact .inr (congrArg some (by simpa [lf, space] using separates))

/-- What is accepted on a word of three bytes is an OK or a MSG. -/
theorem parseKeyword_three (run : parseKeyword (.ofList b) 3 {} = .ok parsed)
    (accepted : 0 < parsed.rc) :
    parseOk (.ofList b) {} = .ok parsed ∨
      strncasecmp (b.take 3) "MSG" = true ∧ parseMsg (.ofList b) 3 {} = .ok parsed := by
  by_cases ok : strncasecmp (b.take 3) "+OK" = true
  · simp only [parseKeyword, ofList_data, ok, ↓reduceIte] at run
    exact .inl run
  · by_cases msg : strncasecmp (b.take 3) "MSG" = true
    · simp only [parseKeyword, ofList_data, ok, msg, Bool.false_eq_true, ↓reduceIte] at run
      exact .inr ⟨msg, run⟩
    · simp only [parseKeyword, ofList_data, ok, msg, Bool.false_eq_true, ↓reduceIte] at run
      cases run
      simp [protoErrInvalidHeader] at accepted

/-- What is accepted on a word of four bytes is an ERR, a PING, a PONG or an INFO. -/
theorem parseKeyword_four (run : parseKeyword (.ofList b) 4 {} = .ok parsed)
    (accepted : 0 < parsed.rc) :
    strncasecmp (b.take 4) "-ERR" = true ∧ parseErr (.ofList b) 4 {} = .ok parsed ∨
      parsePing (.ofList b) {} = .ok parsed ∨ parsePong (.ofList b) {} = .ok parsed ∨
      strncasecmp (b.take 4) "INFO" = true ∧ parseInfoLine (.ofList b) 4 {} = .ok parsed := by
  have three : (4 : Nat) ≠ 3 := by decide
  by_cases err : strncasecmp (b.take 4) "-ERR" = true
  · simp only [parseKeyword, ofList_data, three, err, ↓reduceIte] at run
    exact .inl ⟨err, run⟩
  · by_cases ping : strncasecmp (b.take 4) "PING" = true
    · simp only [parseKeyword, ofList_data, three, err, ping, Bool.false_eq_true, ↓reduceIte] at run
      exact .inr (.inl run)
    · by_cases pong : strncasecmp (b.take 4) "PONG" = true
      · simp only [parseKeyword, ofList_data, three, err, ping, pong, Bool.false_eq_true,
          ↓reduceIte] at run
        exact .inr (.inr (.inl run))
      · by_cases info : strncasecmp (b.take 4) "INFO" = true
        · simp only [parseKeyword, ofList_data, three, err, ping, pong, info, Bool.false_eq_true,
            ↓reduceIte] at run
          exact .inr (.inr (.inr ⟨info, run⟩))
        · simp only [parseKeyword, ofList_data, three, err, ping, pong, info, Bool.false_eq_true,
            ↓reduceIte] at run
          cases run
          simp [protoErrInvalidHeader] at accepted

/-- The two keywords a text follows. -/
def TextKeyword (b : List UInt8) : Prop :=
  strncasecmp (b.take 4) "-ERR" = true ∨ strncasecmp (b.take 4) "INFO" = true

/-- Neither of these keywords has a separator in it. -/
theorem TextKeyword.plain (keyword : TextKeyword b) :
    ∀ i < 4, ∃ c, b[i]? = some c ∧ (c ≠ LF && c ≠ SP && c ≠ CR) = true := by
  rcases keyword with err | info
  · exact keyword_plain err (by decide) (by decide +kernel)
  · exact keyword_plain info (by decide) (by decide +kernel)

/-- At least one space from the end of the keyword on, and no further one at `n`. -/
structure Spaced (b : List UInt8) (n : Nat) : Prop where
  nonempty : 4 < n
  spaces : ∀ i, 4 ≤ i → i < n → b[i]? = some SP
  ends : ∃ c, b[n]? = some c ∧ c ≠ SP

/-- The spaces are skipped. -/
theorem Spaced.scan_eq {n : Nat} (spaced : Spaced b n) :
    scan (· = SP) b (b.length - 4) 4 = .ok n := by
  obtain ⟨c, read, other⟩ := spaced.ends
  have inside : n < b.length := (List.getElem?_eq_some_iff.mp read).1
  have nonempty := spaced.nonempty
  exact NgxNats.scan_eq (by omega) (by omega)
    (fun i low high => ⟨SP, spaced.spaces i low high, by decide⟩)
    fun _ => ⟨c, read, decide_eq_false other⟩

/-- Spaces determine where they end. -/
theorem Spaced.unique {n m : Nat} (spaced : Spaced b n) (again : Spaced b m) : n = m := by
  have first := spaced.scan_eq
  rw [again.scan_eq, Except.ok.injEq] at first
  exact first.symm

/-- Behind spaces the parser of `-ERR` reads a text. -/
theorem Spaced.parseErr_eq {n : Nat} (spaced : Spaced b n) (m : Msg) :
    parseErr (.ofList b) 4 m = parseText n (.ofList b) { m with type := .err } := by
  obtain ⟨c, read, other⟩ := spaced.ends
  have inside : n < b.length := (List.getElem?_eq_some_iff.mp read).1
  have nonempty := spaced.nonempty
  have last : ¬b.length ≤ n := by omega
  have behind : ¬n = 4 := by omega
  simp only [parseErr, ofList_len, ofList_data, spaced.scan_eq, bind, Except.bind, last, behind,
    ↓reduceIte]

/-- Behind spaces the parser of `INFO` reads a text. -/
theorem Spaced.parseInfoLine_eq {n : Nat} (spaced : Spaced b n) (m : Msg) :
    parseInfoLine (.ofList b) 4 m = parseText n (.ofList b) { m with type := .info } := by
  obtain ⟨c, read, other⟩ := spaced.ends
  have inside : n < b.length := (List.getElem?_eq_some_iff.mp read).1
  have nonempty := spaced.nonempty
  have last : ¬b.length ≤ n := by omega
  have behind : ¬n = 4 := by omega
  simp only [parseInfoLine, ofList_len, ofList_data, spaced.scan_eq, bind, Except.bind, last,
    behind, ↓reduceIte]

/-- Behind a keyword and spaces the parser reads a text. -/
theorem TextKeyword.parse_eq {n : Nat} (keyword : TextKeyword b) (spaced : Spaced b n) :
    ∃ type, (type = .err ∨ type = .info) ∧
      parse (.ofList b) = parseText n (.ofList b) { type := type } := by
  have space : b[4]? = some SP := spaced.spaces 4 (Nat.le_refl 4) spaced.nonempty
  have word : LeadWord b 4 := ⟨keyword.plain, .inl space⟩
  have three : (4 : Nat) ≠ 3 := by decide
  rcases keyword with err | info
  · refine ⟨.err, .inl rfl, ?_⟩
    rw [word.parse_eq, ← spaced.parseErr_eq {}]
    simp only [parseKeyword, ofList_data, three, err, ↓reduceIte]
  · refine ⟨.info, .inr rfl, ?_⟩
    have folded : (b.take 4).map toLower = (ascii "INFO").map toLower := by
      simpa [strncasecmp] using info
    have err : strncasecmp (b.take 4) "-ERR" = false := by
      simp only [strncasecmp, folded]
      decide
    have ping : strncasecmp (b.take 4) "PING" = false := by
      simp only [strncasecmp, folded]
      decide
    have pong : strncasecmp (b.take 4) "PONG" = false := by
      simp only [strncasecmp, folded]
      decide
    rw [word.parse_eq, ← spaced.parseInfoLine_eq {}]
    simp only [parseKeyword, ofList_data, three, err, ping, pong, info, Bool.false_eq_true,
      ↓reduceIte]

/-- A text is accepted when a line feed follows the first CR after its first byte. -/
theorem parseText_eq {n stop : Nat} (small : b.length < 2 ^ 63) (after : n < stop)
    (cr : b[stop]? = some CR) (lf : b[stop + 1]? = some LF)
    (first : ∀ i, n < i → i < stop → b[i]? ≠ some CR) (m : Msg) :
    parseText n (.ofList b) m =
      .ok ⟨stop + 2, { m with bstart := n, bend := stop }, b.set stop 0⟩ := by
  have inside : stop + 1 < b.length := (List.getElem?_eq_some_iff.mp lf).1
  have run : scan (· ≠ CR) b (b.length - (n + 1)) (n + 1) = .ok stop := by
    refine scan_eq (by omega) (by omega) (fun i low high => ?_) fun _ => ⟨CR, cr, by decide⟩
    have here : i < b.length := by omega
    refine ⟨b[i], List.getElem?_eq_getElem here, decide_eq_true fun absurd => ?_⟩
    exact first i (by omega) high (by rw [List.getElem?_eq_getElem here, absurd])
  have last : ¬b.length - 1 ≤ stop := by omega
  have rc : Word.signed ((stop : Int) + 2) = stop + 2 := by
    exact_mod_cast signed_of_small (show stop + 2 < 2 ^ 63 by omega)
  simp only [parseText, ofList_len, ofList_data, run, bind, Except.bind, last, load_ok.mpr lf,
    store_inside 0 (show stop < b.length by omega), rc]
  rfl

/-- An `-ERR` right before CRLF is accepted as an empty error. -/
theorem parseErr_bare (small : b.length < 2 ^ 63) (cr : b[4]? = some CR) (lf : b[5]? = some LF)
    (m : Msg) : parseErr (.ofList b) 4 m =
      .ok ⟨6, { m with type := .err, bstart := 4, bend := 4 }, b.set 4 0⟩ := by
  have inside : 5 < b.length := (List.getElem?_eq_some_iff.mp lf).1
  have run : scan (· = SP) b (b.length - 4) 4 = .ok 4 :=
    scan_eq (by omega) (by omega) (fun i low high => by omega) fun _ => ⟨CR, cr, by decide⟩
  have last : ¬b.length ≤ 4 := by omega
  have second : ¬4 = b.length - 1 := by omega
  have rc : Word.signed (((4 : Nat) : Int) + 2) = 6 := by decide
  simp only [parseErr, ofList_len, ofList_data, run, bind, Except.bind, last, load_ok.mpr cr,
    second, load_ok.mpr lf, store_inside 0 (show 4 < b.length by omega), rc]
  rfl

/-- Skipping spaces behind a word of four bytes: they reach the end of the buffer, there are none,
or there are some. -/
theorem LeadWord.spaces (word : LeadWord b 4) : ∃ n, scan (· = SP) b (b.length - 4) 4 = .ok n ∧
    (b.length ≤ n ∨ (n = 4 ∧ b[4]? = some CR) ∨ Spaced b n) := by
  have inside := word.inside
  obtain ⟨n, lower, upper, scanned, passed, ended⟩ :=
    scan_list (· = SP) b 4 b.length inside.le (Nat.le_refl _)
  refine ⟨n, scanned, ?_⟩
  by_cases last : b.length ≤ n
  · exact .inl last
  · have room : n < b.length := by omega
    have other : b[n] ≠ SP := by simpa using (ended room room).1
    right
    by_cases bare : n = 4
    · subst bare
      left
      rcases word.ends with space | cr
      · rw [List.getElem?_eq_getElem room, Option.some.injEq] at space
        exact absurd space other
      · exact ⟨rfl, cr⟩
    · right
      refine ⟨by omega, fun i low high => ?_, b[n], List.getElem?_eq_getElem room, other⟩
      have space : b[i] = SP := by simpa using passed i (by omega) low high
      rw [List.getElem?_eq_getElem (by omega), space]

/-- What the parser of `-ERR` accepts: an empty error, or a text behind spaces. -/
theorem parseErr_accepted (small : b.length < 2 ^ 63) (word : LeadWord b 4)
    (run : parseErr (.ofList b) 4 {} = .ok parsed) (accepted : 0 < parsed.rc) :
    EmptyFrame 4 b { type := .err } parsed ∨
      ∃ n, Spaced b n ∧ parseText n (.ofList b) { type := .err } = .ok parsed := by
  obtain ⟨n, scanned, last | ⟨rfl, cr⟩ | spaced⟩ := word.spaces
  · simp only [parseErr, ofList_len, ofList_data, scanned, bind, Except.bind, last,
      ↓reduceIte] at run
    cases run
    simp [protoAgain] at accepted
  · left
    have inside : ¬b.length ≤ 4 := by
      have := word.inside
      omega
    by_cases second : 4 = b.length - 1
    · simp only [parseErr, ofList_len, ofList_data, scanned, bind, Except.bind, inside,
        load_ok.mpr cr, ← second, ne_eq, not_true_eq_false, ↓reduceIte] at run
      cases run
      simp [protoAgain] at accepted
    · have next : 5 < b.length := by omega
      by_cases lf : b[5] = LF
      · have lf : b[5]? = some LF := by rw [List.getElem?_eq_getElem next, lf]
        rw [parseErr_bare small cr lf {}, Except.ok.injEq] at run
        exact ⟨run.symm, cr, lf⟩
      · simp only [parseErr, ofList_len, ofList_data, scanned, bind, Except.bind, inside,
          load_ok.mpr cr, second, load_inside next, lf, ne_eq, not_true_eq_false,
          not_false_eq_true, ↓reduceIte] at run
        cases run
        simp [protoErrInvalidMsg] at accepted
  · right
    rw [spaced.parseErr_eq] at run
    exact ⟨n, spaced, run⟩

/-- What the parser of `INFO` accepts is a text behind spaces. -/
theorem parseInfoLine_accepted (word : LeadWord b 4)
    (run : parseInfoLine (.ofList b) 4 {} = .ok parsed) (accepted : 0 < parsed.rc) :
    ∃ n, Spaced b n ∧ parseText n (.ofList b) { type := .info } = .ok parsed := by
  obtain ⟨n, scanned, last | ⟨rfl, cr⟩ | spaced⟩ := word.spaces
  · simp only [parseInfoLine, ofList_len, ofList_data, scanned, bind, Except.bind, last,
      ↓reduceIte] at run
    cases run
    simp [protoAgain] at accepted
  · have inside : ¬b.length ≤ 4 := by
      have := word.inside
      omega
    simp only [parseInfoLine, ofList_len, ofList_data, scanned, bind, Except.bind, inside,
      ↓reduceIte] at run
    cases run
    simp [protoErrInvalidMsg] at accepted
  · rw [spaced.parseInfoLine_eq] at run
    exact ⟨n, spaced, run⟩

/-- The payload part of the MSG parser keeps the type. -/
theorem parseMsgPayload_type {ns : Nat} {bytes : Str} {m : Msg}
    (run : parseMsgPayload ns bytes m = .ok parsed) : parsed.msg.type = m.type := by
  unfold parseMsgPayload at run
  by_cases short : bytes.len < Word.unsigned (ns + m.len + 2)
  · rw [if_pos short] at run
    cases run
    rfl
  · rw [if_neg short] at run
    obtain ⟨cr, -, run⟩ := except_bind_ok.mp run
    by_cases other : cr ≠ CR
    · rw [if_pos other] at run
      cases run
      rfl
    · rw [if_neg other] at run
      obtain ⟨lf, -, run⟩ := except_bind_ok.mp run
      by_cases other₂ : lf ≠ LF
      · rw [if_pos other₂] at run
        cases run
        rfl
      · rw [if_neg other₂] at run
        obtain ⟨data, -, run⟩ := except_bind_ok.mp run
        simp only at run
        by_cases reply : 0 < m.replyto.len
        · rw [if_pos reply] at run
          obtain ⟨data₂, -, run⟩ := except_bind_ok.mp run
          obtain ⟨data₃, -, run⟩ := except_bind_ok.mp run
          cases run
          rfl
        · rw [if_neg reply] at run
          obtain ⟨data₂, -, run⟩ := except_bind_ok.mp run
          obtain ⟨data₃, -, run⟩ := except_bind_ok.mp run
          cases run
          rfl

/-- What the MSG parser accepts is a MSG. -/
theorem parseMsg_type (inside : 3 < b.length) (run : parseMsg (.ofList b) 3 {} = .ok parsed)
    (accepted : 0 < parsed.rc) : parsed.msg.type = .msg := by
  rcases parseMsg_cases inside {} with ⟨found, outcome⟩ | ⟨max, tokens, line⟩
  · have same : found = parsed := by
      have returns := outcome.returns
      rw [run, Except.ok.injEq] at returns
      exact returns.symm
    exact (outcome.accepted (by rw [same]; exact accepted.le)).elim
  · rw [line.parseMsg_eq {}] at run
    exact parseMsgPayload_type run

/-- The first CR of a buffer. -/
structure FirstCr (b : List UInt8) (cr : Nat) : Prop where
  here : b[cr]? = some CR
  first : ∀ i < cr, b[i]? ≠ some CR

/-- There is only one first CR. -/
theorem FirstCr.unique {cr other : Nat} (first : FirstCr b cr) (again : FirstCr b other) :
    cr = other := by
  rcases Nat.lt_trichotomy cr other with less | same | more
  · exact absurd first.here (again.first cr less)
  · exact same
  · exact absurd again.here (first.first other more)

/-- A separator-free word has no CR. -/
theorem LeadWord.noCr {p : Nat} (word : LeadWord b p) : ∀ i < p, b[i]? ≠ some CR := by
  intro i low absurd
  obtain ⟨c, read, plain⟩ := word.plain i low
  rw [absurd, Option.some.injEq] at read
  subst read
  exact (by decide : ¬(CR ≠ LF && CR ≠ SP && CR ≠ CR) = true) plain

/-- A line message that ends at its own line: at the first CR of the buffer, which a line feed
follows, with the text, if it has one, between the keyword and that CR. -/
structure EndsAtLine (b : List UInt8) (parsed : Parsed) (cr : Nat) : Prop where
  first : FirstCr b cr
  lf : b[cr + 1]? = some LF
  rc : parsed.rc = cr + 2
  text : parsed.msg.type = .err ∨ parsed.msg.type = .info →
    4 ≤ parsed.msg.bstart ∧ parsed.msg.bstart ≤ parsed.msg.bend ∧ parsed.msg.bend ≤ cr

/-- An accepted keyword line ends at its own line. -/
theorem BareFrame.endsAtLine {keyword : Nat} {type : MsgType} {m : Msg}
    (frame : BareFrame keyword type b m parsed) (word : LeadWord b keyword)
    (bare : ¬(type = .err ∨ type = .info)) : EndsAtLine b parsed keyword := by
  refine ⟨⟨frame.cr, word.noCr⟩, frame.lf, ?_, fun text => ?_⟩
  · rw [frame.result]
  · rw [frame.result] at text
    exact (bare text).elim

/-- An accepted empty error ends at its own line. -/
theorem EmptyFrame.endsAtLine {m : Msg} (frame : EmptyFrame 4 b m parsed)
    (word : LeadWord b 4) : EndsAtLine b parsed 4 := by
  refine ⟨⟨frame.cr, word.noCr⟩, frame.lf, ?_, fun _ => ?_⟩
  · rw [frame.result]
  · rw [frame.result]
    exact ⟨Nat.le_refl 4, Nat.le_refl 4, Nat.le_refl 4⟩

/-- An accepted text that does not start with a CR ends at its own line. -/
theorem TextFrame.endsAtLine {n : Nat} {m : Msg} (frame : TextFrame n b m parsed)
    (word : LeadWord b 4) (spaced : Spaced b n) (text : b[n]? ≠ some CR) :
    EndsAtLine b parsed parsed.msg.bend := by
  have after := frame.after
  have nonempty := spaced.nonempty
  refine ⟨⟨frame.cr, fun i low => ?_⟩, frame.lf, ?_, fun _ => ?_⟩
  · by_cases early : i < 4
    · exact word.noCr i early
    · by_cases space : i < n
      · rw [spaced.spaces i (by omega) space]
        decide
      · by_cases here : i = n
        · rw [here]
          exact text
        · exact frame.first i (by omega) low
  · exact congrArg Parsed.rc frame.result
  · have start : parsed.msg.bstart = n := congrArg (·.msg.bstart) frame.result
    rw [start]
    omega

/-- A line without a text that the parser takes together with what follows: spaces behind the
keyword, then a CR, and a line feed behind the next CR. -/
structure Swallowed (b : List UInt8) (n stop : Nat) : Prop where
  keyword : TextKeyword b
  spaced : Spaced b n
  blank : b[n]? = some CR
  after : n < stop
  cr : b[stop]? = some CR
  lf : b[stop + 1]? = some LF
  first : ∀ i, n < i → i < stop → b[i]? ≠ some CR

/-- Its CR is the first one. -/
theorem Swallowed.firstCr {n stop : Nat} (swallowed : Swallowed b n stop) : FirstCr b n := by
  refine ⟨swallowed.blank, fun i low => ?_⟩
  have word : LeadWord b 4 := ⟨swallowed.keyword.plain,
    .inl (swallowed.spaced.spaces 4 (Nat.le_refl 4) swallowed.spaced.nonempty)⟩
  by_cases early : i < 4
  · exact word.noCr i early
  · rw [swallowed.spaced.spaces i (by omega) low]
    decide

/-- It is accepted with an end behind the next line. -/
theorem Swallowed.parse_eq {n stop : Nat} (small : b.length < 2 ^ 63)
    (swallowed : Swallowed b n stop) : ∃ type, (type = .err ∨ type = .info) ∧
      parse (.ofList b) = .ok ⟨stop + 2, { type := type, bstart := n, bend := stop },
        b.set stop 0⟩ := by
  obtain ⟨type, text, run⟩ := swallowed.keyword.parse_eq swallowed.spaced
  refine ⟨type, text, run.trans ?_⟩
  exact parseText_eq small swallowed.after swallowed.cr swallowed.lf swallowed.first _

/-- Every line message the parser accepts ends at its own line, unless it swallows the next. -/
theorem endsAtLine_of_accepted (small : b.length < 2 ^ 63)
    (clear : ∀ n stop, ¬Swallowed b n stop) (run : parse (.ofList b) = .ok parsed)
    (accepted : 0 < parsed.rc) (isLine : parsed.msg.type ≠ .msg) :
    ∃ cr, EndsAtLine b parsed cr := by
  obtain ⟨p, length, word, run⟩ := parse_word run accepted
  have bare (keyword : Nat) (type : MsgType) (line : ¬(type = .err ∨ type = .info))
      (word : LeadWord b keyword) (run : parseBare keyword type (.ofList b) {} = .ok parsed) :
      ∃ cr, EndsAtLine b parsed cr := by
    obtain ⟨found, outcome⟩ := parseBare_outcome keyword type b {}
    have same : found = parsed := by
      have returns := outcome.returns
      rw [run, Except.ok.injEq] at returns
      exact returns.symm
    rw [same] at outcome
    exact ⟨keyword, (outcome.accepted accepted.le).endsAtLine word line⟩
  have text (type : MsgType) (keyword : TextKeyword b) (n : Nat) (word : LeadWord b 4)
      (spaced : Spaced b n) (run : parseText n (.ofList b) { type := type } = .ok parsed) :
      ∃ cr, EndsAtLine b parsed cr := by
    obtain ⟨c, read, -⟩ := spaced.ends
    obtain ⟨found, outcome⟩ :=
      parseText_outcome small (List.getElem?_eq_some_iff.mp read).1 { type := type }
    have same : found = parsed := by
      have returns := outcome.returns
      rw [run, Except.ok.injEq] at returns
      exact returns.symm
    rw [same] at outcome
    have frame := outcome.accepted accepted.le
    refine ⟨_, frame.endsAtLine word spaced fun blank => ?_⟩
    exact clear n _ ⟨keyword, spaced, blank, frame.after, frame.cr, frame.lf, frame.first⟩
  rcases length with rfl | rfl
  · rcases parseKeyword_three run accepted with ok | ⟨-, msg⟩
    · exact bare 3 .ok (by decide) word ok
    · exact absurd (parseMsg_type word.inside msg accepted) isLine
  · rcases parseKeyword_four run accepted with ⟨keyword, err⟩ | ping | pong | ⟨keyword, info⟩
    · rcases parseErr_accepted small word err accepted with empty | ⟨n, spaced, err⟩
      · exact ⟨4, empty.endsAtLine word⟩
      · exact text .err (.inl keyword) n word spaced err
    · exact bare 4 .ping (by decide) word ping
    · exact bare 4 .pong (by decide) word pong
    · obtain ⟨n, spaced, info⟩ := parseInfoLine_accepted word info accepted
      exact text .info (.inr keyword) n word spaced info

/-- An error without a text, with some spaces behind the keyword, and what follows it. -/
def emptyError (count : Nat) (t : List UInt8) : List UInt8 :=
  ascii "-ERR" ++ (blanks count ++ CR :: LF :: t)

/-- Without a space it is accepted as such. -/
theorem emptyError_accepted (t : List UInt8) (small : (emptyError 0 t).length < 2 ^ 63) :
    parse (.ofList (emptyError 0 t)) =
      .ok ⟨6, { type := .err, bstart := 4, bend := 4 }, (emptyError 0 t).set 4 0⟩ := by
  have cr : (emptyError 0 t)[4]? = some CR := rfl
  have lf : (emptyError 0 t)[5]? = some LF := rfl
  have keyword : strncasecmp ((emptyError 0 t).take 4) "-ERR" = true := by
    have word : (emptyError 0 t).take 4 = ascii "-ERR" := List.take_left' (by decide)
    rw [word]
    decide
  have word : LeadWord (emptyError 0 t) 4 :=
    ⟨TextKeyword.plain (.inl keyword), .inr cr⟩
  have three : (4 : Nat) ≠ 3 := by decide
  rw [word.parse_eq, ← parseErr_bare small cr lf {}]
  simp only [parseKeyword, ofList_data, three, keyword, ↓reduceIte]

/-- With a space the parser does not take its CR for the end. -/
theorem emptyError_missed {count : Nat} (positive : 0 < count) (t : List UInt8)
    (small : (emptyError count t).length < 2 ^ 63)
    (run : parse (.ofList (emptyError count t)) = .ok parsed) (accepted : 0 < parsed.rc) :
    parsed.rc ≠ 4 + count + 2 := by
  have behind : (emptyError count t).drop 4 = blanks count ++ CR :: LF :: t :=
    List.drop_left' (by decide)
  have spaces (offset : Nat) : (emptyError count t)[4 + offset]? =
      (blanks count ++ CR :: LF :: t)[offset]? := by
    rw [← behind, List.getElem?_drop]
  have length : (blanks count).length = count := List.length_replicate
  have blank : (emptyError count t)[4 + count]? = some CR := by
    rw [spaces, List.getElem?_append_right length.le, length, Nat.sub_self]
    rfl
  have spaced : Spaced (emptyError count t) (4 + count) := by
    refine ⟨by omega, fun i low high => ?_, CR, blank, by decide⟩
    obtain ⟨offset, rfl⟩ := Nat.exists_eq_add_of_le low
    have early : offset < count := by omega
    rw [spaces, List.getElem?_append_left (by omega), blanks, List.getElem?_replicate_of_lt early]
  have keyword : strncasecmp ((emptyError count t).take 4) "-ERR" = true := by
    have word : (emptyError count t).take 4 = ascii "-ERR" := List.take_left' (by decide)
    rw [word]
    decide
  obtain ⟨type, -, eq⟩ := TextKeyword.parse_eq (.inl keyword) spaced
  obtain ⟨found, outcome⟩ :=
    parseText_outcome small (List.getElem?_eq_some_iff.mp blank).1 { type := type }
  have same : found = parsed := by
    have returns := outcome.returns
    rw [← eq, run, Except.ok.injEq] at returns
    exact returns.symm
  rw [same] at outcome
  have frame := outcome.accepted accepted.le
  have rc : parsed.rc = parsed.msg.bend + 2 := congrArg Parsed.rc frame.result
  have after := frame.after
  omega

/-- Line messages end at their own line: what is accepted as one does, and an `-ERR` with any
number of spaces before its CRLF is accepted as an empty error up to that CRLF. -/
structure LinesKept (b : List UInt8) : Prop where
  ends : ∀ parsed, parse (.ofList b) = .ok parsed → 0 < parsed.rc → parsed.msg.type ≠ .msg →
    ∃ cr, EndsAtLine b parsed cr
  empty : ∀ count t, b = emptyError count t → ∃ parsed, parse (.ofList b) = .ok parsed ∧
    parsed.rc = 4 + count + 2 ∧ parsed.msg.type = .err ∧ parsed.msg.bstart = parsed.msg.bend

/-- Line messages end at their own line exactly on the buffers that do not start with `-ERR` or
`INFO`, spaces and a CR: none that swallows the next line, and no empty error with a space. -/
theorem linesKept_iff (small : b.length < 2 ^ 63) :
    LinesKept b ↔ (∀ n stop, ¬Swallowed b n stop) ∧
      ∀ count t, 0 < count → b ≠ emptyError count t := by
  constructor
  · intro kept
    refine ⟨fun n stop swallowed => ?_, fun count t positive equal => ?_⟩
    · obtain ⟨type, text, run⟩ := swallowed.parse_eq small
      have line : type ≠ .msg := by
        rcases text with rfl | rfl
        · decide
        · decide
      obtain ⟨cr, ends⟩ := kept.ends _ run (by simp only; omega) line
      have rc := ends.rc
      have same := ends.first.unique swallowed.firstCr
      have after := swallowed.after
      simp only at rc
      omega
    · obtain ⟨parsed, run, rc, -, -⟩ := kept.empty count t equal
      subst equal
      exact emptyError_missed positive t small run (by omega) rc
  · intro clear
    refine ⟨fun parsed run accepted line => ?_, fun count t equal => ?_⟩
    · exact endsAtLine_of_accepted small clear.1 run accepted line
    · rcases Nat.eq_zero_or_pos count with rfl | positive
      · subst equal
        exact ⟨_, emptyError_accepted t small, rfl, rfl, rfl⟩
      · exact absurd equal (clear.2 count t positive)

/-- An error with a text, and a `PING` behind it. -/
theorem linesKept_text : LinesKept (ascii "-ERR x\r\nPING\r\n") := by
  have spaced : Spaced (ascii "-ERR x\r\nPING\r\n") 5 :=
    ⟨by decide, by decide, 120, by decide, by decide⟩
  apply (linesKept_iff (by decide)).mpr
  refine ⟨fun n stop swallowed => ?_, fun count t positive equal => ?_⟩
  · have same := spaced.unique swallowed.spaced
    subst same
    exact absurd swallowed.blank (by decide)
  · match count, positive with
    | 1, _ => exact absurd (congrArg (·[5]?) equal) (by decide : ¬some 120 = some CR)
    | count + 2, _ => exact absurd (congrArg (·[5]?) equal) (by decide : ¬some 120 = some SP)

/-- An error with one space and no text: the `PING` behind it becomes its text. -/
theorem next_line_swallowed : ¬LinesKept (ascii "-ERR \r\nPING\r\n") := by
  intro kept
  have run : parse (.ofList (ascii "-ERR \r\nPING\r\n")) = .ok ⟨13,
      { type := .err, bstart := 5, bend := 11 }, (ascii "-ERR \r\nPING\r\n").set 11 0⟩ := by
    decide
  obtain ⟨cr, ends⟩ := kept.ends _ run (by decide) (by decide)
  have rc : (13 : Int) = cr + 2 := ends.rc
  exact absurd (by decide : (ascii "-ERR \r\nPING\r\n")[5]? = some CR)
    (ends.first.first 5 (by omega))

end NgxNats
