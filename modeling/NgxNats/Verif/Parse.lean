import NgxNats.Verif.MsgFrame

/-!
# The parser as a whole

`ngx_nats_parse` on a byte list of which every MSG header line declares a length that fits: it
returns without leaving the buffer, every result other than `NGX_NATS_PROTO_AGAIN` is final, and
what it accepts is a frame of one of the six types.
-/
namespace NgxNats

/-- A MSG header line at the start of a buffer, keyword included. -/
structure FrameLine (b : List UInt8) (max : Nat) (tokens : MsgTokens) : Prop where
  keyword : strncasecmp (b.take 3) "MSG" = true
  line : MsgLine 3 b max tokens

/-- The frames `ngx_nats_parse` accepts. -/
inductive Frame (b : List UInt8) (parsed : Parsed) : Prop
  | ok (frame : BareFrame 3 .ok b {} parsed)
  | ping (frame : BareFrame 4 .ping b {} parsed)
  | pong (frame : BareFrame 4 .pong b {} parsed)
  | err (frame : ErrFrame 4 b {} parsed)
  | info (frame : InfoFrame 4 b {} parsed)
  | msg (max : Nat) (tokens : MsgTokens) (keyword : strncasecmp (b.take 3) "MSG" = true)
      (frame : MsgFrame 3 b {} max tokens parsed)

variable {b : List UInt8}

/-- What the dispatch does on a keyword inside the buffer. -/
theorem parseKeyword_outcome (small : b.length < 2 ^ 63) {p : Nat} (inside : p < b.length)
    (fits : ∀ max tokens, FrameLine b max tokens → LenFits max (tokens.lenValue b)) :
    ∃ parsed, Outcome (fun bytes => parseKeyword bytes p {}) b parsed (Frame b) := by
  have keyword (more : List UInt8) : (b ++ more).take p = b.take p :=
    List.take_append_of_le_length (by omega)
  by_cases three : p = 3
  · subst three
    by_cases ok : strncasecmp (b.take 3) "+OK" = true
    · obtain ⟨parsed, outcome⟩ := parseBare_outcome 3 .ok b {}
      refine ⟨parsed, (outcome.congr fun more => ?_).weaken .ok⟩
      simp only [parseKeyword, ofList_data, keyword more, ok, parseOk, ↓reduceIte]
    · by_cases msg : strncasecmp (b.take 3) "MSG" = true
      · obtain ⟨parsed, outcome⟩ := parseMsg_outcome small inside (m := {}) rfl
          fun max tokens line => fits max tokens ⟨msg, line⟩
        refine ⟨parsed, (outcome.congr fun more => ?_).weaken fun ⟨max, tokens, frame⟩ =>
          .msg max tokens msg frame⟩
        simp only [parseKeyword, ofList_data, keyword more, ok, msg, Bool.false_eq_true,
          ↓reduceIte]
      · refine ⟨⟨protoErrInvalidHeader, {}, b⟩, .error (by decide) fun more => ?_⟩
        simp only [parseKeyword, ofList_data, keyword more, ok, msg, Bool.false_eq_true,
          ↓reduceIte]
        rfl
  · by_cases four : p = 4
    · subst four
      by_cases err : strncasecmp (b.take 4) "-ERR" = true
      · obtain ⟨parsed, outcome⟩ := parseErr_outcome small inside {}
        refine ⟨parsed, (outcome.congr fun more => ?_).weaken .err⟩
        simp only [parseKeyword, ofList_data, keyword more, three, err, ↓reduceIte]
      · by_cases ping : strncasecmp (b.take 4) "PING" = true
        · obtain ⟨parsed, outcome⟩ := parseBare_outcome 4 .ping b {}
          refine ⟨parsed, (outcome.congr fun more => ?_).weaken .ping⟩
          simp only [parseKeyword, ofList_data, keyword more, three, err, ping, parsePing,
            Bool.false_eq_true, ↓reduceIte]
        · by_cases pong : strncasecmp (b.take 4) "PONG" = true
          · obtain ⟨parsed, outcome⟩ := parseBare_outcome 4 .pong b {}
            refine ⟨parsed, (outcome.congr fun more => ?_).weaken .pong⟩
            simp only [parseKeyword, ofList_data, keyword more, three, err, ping, pong, parsePong,
              Bool.false_eq_true, ↓reduceIte]
          · by_cases info : strncasecmp (b.take 4) "INFO" = true
            · obtain ⟨parsed, outcome⟩ := parseInfoLine_outcome small inside {}
              refine ⟨parsed, (outcome.congr fun more => ?_).weaken .info⟩
              simp only [parseKeyword, ofList_data, keyword more, three, err, ping, pong, info,
                Bool.false_eq_true, ↓reduceIte]
            · refine ⟨⟨protoErrInvalidHeader, {}, b⟩, .error (by decide) fun more => ?_⟩
              simp only [parseKeyword, ofList_data, keyword more, three, err, ping, pong, info,
                Bool.false_eq_true, ↓reduceIte]
              rfl
    · refine ⟨⟨protoErrInvalidHeader, {}, b⟩, .error (by decide) fun more => ?_⟩
      simp only [parseKeyword, three, four, ↓reduceIte]
      rfl

/-- What the parser does when every declared length fits. -/
theorem parse_outcome (small : b.length < 2 ^ 63)
    (fits : ∀ max tokens, FrameLine b max tokens → LenFits max (tokens.lenValue b)) :
    ∃ parsed, Outcome parse b parsed (Frame b) := by
  obtain ⟨p, lower, upper, run, passed, ended⟩ :=
    scan_list (fun c => c ≠ LF && c ≠ SP && c ≠ CR) b 0 b.length (Nat.zero_le _) (Nat.le_refl _)
  rw [Nat.sub_zero] at run
  by_cases last : b.length ≤ p
  · refine ⟨⟨protoAgain, {}, b⟩, .again ?_⟩
    simp only [parse, ofList_len, ofList_data, run, bind, Except.bind, last, ↓reduceIte]
    rfl
  · have room : p < b.length := by omega
    obtain ⟨-, longer⟩ := ended room room
    have longer (more : List UInt8) := longer more _ (length_le_append b more)
    have farther (more : List UInt8) : ¬(b ++ more).length ≤ p := by
      rw [List.length_append]
      omega
    by_cases lf : b[p] = LF
    · refine ⟨⟨protoErrInvalidHeader, {}, b⟩, .error (by decide) fun more => ?_⟩
      have run := longer more
      rw [Nat.sub_zero] at run
      simp only [parse, ofList_len, ofList_data, run, bind, Except.bind, farther more,
        load_append_inside more room, lf, ↓reduceIte]
      rfl
    · obtain ⟨parsed, outcome⟩ := parseKeyword_outcome small room fits
      refine ⟨parsed, outcome.congr fun more => ?_⟩
      have run := longer more
      rw [Nat.sub_zero] at run
      simp only [parse, ofList_len, ofList_data, run, bind, Except.bind, farther more,
        load_append_inside more room, lf, ↓reduceIte]

/-- The bytes of a word in front: none of them separates, and a space or CR follows. -/
structure LeadWord (b : List UInt8) (p : Nat) : Prop where
  plain : ∀ i < p, ∃ c, b[i]? = some c ∧ (c ≠ LF && c ≠ SP && c ≠ CR) = true
  ends : b[p]? = some SP ∨ b[p]? = some CR

/-- The word ends inside the buffer. -/
theorem LeadWord.inside {p : Nat} (word : LeadWord b p) : p < b.length := by
  rcases word.ends with space | cr
  · exact (List.getElem?_eq_some_iff.mp space).1
  · exact (List.getElem?_eq_some_iff.mp cr).1

/-- The parser dispatches on the word in front. -/
theorem LeadWord.parse_eq {p : Nat} (word : LeadWord b p) :
    parse (.ofList b) = parseKeyword (.ofList b) p {} := by
  obtain ⟨c, read, separates, other⟩ : ∃ c, b[p]? = some c ∧
      (c ≠ LF && c ≠ SP && c ≠ CR) = false ∧ c ≠ LF := by
    rcases word.ends with space | cr
    · exact ⟨SP, space, by decide, by decide⟩
    · exact ⟨CR, cr, by decide, by decide⟩
  have inside : p < b.length := (List.getElem?_eq_some_iff.mp read).1
  have run : scan (fun c => c ≠ LF && c ≠ SP && c ≠ CR) b b.length 0 = .ok p :=
    scan_eq (Nat.zero_le p) (by omega) (fun i _ low => word.plain i low)
      fun _ => ⟨c, read, separates⟩
  have last : ¬b.length ≤ p := by omega
  simp only [parse, ofList_len, ofList_data, run, bind, Except.bind, last, load_ok.mpr read, other,
    ↓reduceIte]

/-- A word that equals a keyword up to case has no separator in it. -/
theorem keyword_plain {p : Nat} {keyword : String} (same : strncasecmp (b.take p) keyword = true)
    (length : ((ascii keyword).map toLower).length = p)
    (plain : ∀ c ∈ (ascii keyword).map toLower, c ≠ LF ∧ c ≠ SP ∧ c ≠ CR) :
    ∀ i < p, ∃ c, b[i]? = some c ∧ (c ≠ LF && c ≠ SP && c ≠ CR) = true := by
  have folded : (b.take p).map toLower = (ascii keyword).map toLower := by
    simpa [strncasecmp] using same
  intro i low
  have bound : i < ((b.take p).map toLower).length := by
    rw [folded]
    omega
  rw [List.length_map, List.length_take] at bound
  have inside : i < b.length := by omega
  have mem : toLower b[i] ∈ (ascii keyword).map toLower := by
    rw [← folded]
    refine List.mem_map_of_mem ?_
    have bound : i < (b.take p).length := by
      rw [List.length_take]
      omega
    have read : (b.take p)[i] = b[i] := List.getElem_take
    rw [← read]
    exact List.getElem_mem _
  obtain ⟨noLf, noSp, noCr⟩ := plain _ mem
  refine ⟨b[i], List.getElem?_eq_getElem inside, ?_⟩
  have other (separator : UInt8) (fixed : toLower separator = separator)
      (differs : toLower b[i] ≠ separator) : b[i] ≠ separator := by
    intro equal
    rw [equal, fixed] at differs
    exact differs rfl
  simp [other LF (by decide) noLf, other SP (by decide) noSp, other CR (by decide) noCr]

/-- Behind the keyword MSG and a space the parser is the MSG parser. -/
theorem parse_msg (keyword : strncasecmp (b.take 3) "MSG" = true) (space : b[3]? = some SP) :
    parse (.ofList b) = parseMsg (.ofList b) 3 {} := by
  have word : LeadWord b 3 := {
    plain := keyword_plain keyword (by decide) (by decide +kernel)
    ends := .inl space }
  have ok : strncasecmp (b.take 3) "+OK" = false := by
    have folded : (b.take 3).map toLower = (ascii "MSG").map toLower := by
      simpa [strncasecmp] using keyword
    simp only [strncasecmp, folded]
    decide
  rw [word.parse_eq]
  simp only [parseKeyword, ofList_data, ok, keyword, Bool.false_eq_true, ↓reduceIte]

/-- On a MSG header line the parser turns to the payload with the message it has formed. -/
theorem FrameLine.parse_eq {max : Nat} {tokens : MsgTokens} (frame : FrameLine b max tokens) :
    parse (.ofList b) = parseMsgPayload (max + 2) (.ofList b)
      (tokens.formed b { type := .msg }) :=
  (parse_msg frame.keyword frame.line.space).trans (frame.line.parseMsg_eq {})

end NgxNats
