import NgxNats.Verif.Lines
import NgxNats.Verif.Stream

/-!
# Messages as a server writes them

The six messages of the protocol as bytes: keyword lines, lines with a text, and MSG frames. The
parser takes each of them back from the front of a stream and asks for more while a byte is missing,
so no message is the beginning of another one.
-/
namespace NgxNats

/-- These bytes are this message: the parser takes them back as a whole, and nothing before. -/
structure Written (bytes : List UInt8) (msg : ServerMsg) : Prop where
  accepted : ∃ parsed, Outcome parse bytes parsed (Frame bytes) ∧ parsed.rc = bytes.length ∧
    serverMsg parsed = msg
  early : ∀ p, p <+: bytes → p ≠ bytes →
    ∃ parsed, Outcome parse p parsed (Frame p) ∧ parsed.rc = protoAgain
  words : ∀ more max tokens, FrameLine (bytes ++ more) max tokens →
    tokens.lenValue (bytes ++ more) < 2 ^ 63

section Written

variable {bytes : List UInt8} {msg : ServerMsg} {parsed : Parsed}

/-- What the parser takes back as a whole is not taken back before. -/
theorem written_of_parse (small : bytes.length < 2 ^ 62)
    (words : ∀ more max tokens, FrameLine (bytes ++ more) max tokens →
      tokens.lenValue (bytes ++ more) < 2 ^ 63)
    (run : parse (.ofList bytes) = .ok parsed) (whole : parsed.rc = bytes.length)
    (meant : serverMsg parsed = msg) : Written bytes msg := by
  have outcome {p more : List UInt8} (split : p ++ more = bytes) :
      ∃ parsed, Outcome parse p parsed (Frame p) := by
    have short : p.length < 2 ^ 62 := by
      rw [← split, List.length_append] at small
      omega
    have fit := words []
    rw [List.append_nil, ← split] at fit
    exact parse_beginning short fit
  refine ⟨?_, ?_, words⟩
  · obtain ⟨found, outcome⟩ := outcome (List.append_nil bytes)
    cases run.symm.trans outcome.returns
    exact ⟨parsed, outcome, whole, meant⟩
  · rintro p ⟨more, split⟩ proper
    obtain ⟨found, outcome⟩ := outcome split
    refine ⟨found, outcome, ?_⟩
    -- a result before the last byte would be the result on the whole, which is longer
    by_contra final
    have stable := outcome.stable final more
    rw [split, run, Except.ok.injEq] at stable
    have rc : found.rc = bytes.length := (congrArg Parsed.rc stable).symm.trans whole
    have inside := (outcome.accepted (by omega)).consumed.inside
    have some : more ≠ [] := by
      intro none
      rw [none, List.append_nil] at split
      exact proper split
    have positive := List.length_pos_of_ne_nil some
    rw [← split, List.length_append] at rc
    omega

/-- A line with another keyword is no MSG header line. -/
theorem words_of_keyword (long : 3 ≤ bytes.length)
    (other : strncasecmp (bytes.take 3) "MSG" = false) (more : List UInt8) (max : Nat)
    (tokens : MsgTokens) (frame : FrameLine (bytes ++ more) max tokens) :
    tokens.lenValue (bytes ++ more) < 2 ^ 63 := by
  have keyword := frame.keyword
  rw [List.take_append_of_le_length long, other] at keyword
  cases keyword

end Written

/-- A text that may follow a keyword and a space: not empty, without a CR, and not starting with a
space. -/
structure LineText where
  text : List UInt8
  nonempty : text ≠ []
  plain : CR ∉ text
  unspaced : text.head? ≠ some SP

/-- A keyword of four bytes, a space, a text and the line end. -/
def LineText.line (keyword : String) (line : LineText) : List UInt8 :=
  ascii keyword ++ SP :: (line.text ++ [CR, LF])

section Line

variable {keyword : String} {line : LineText}

/-- The length of a line. -/
theorem LineText.length_line (four : (ascii keyword).length = 4) :
    (line.line keyword).length = line.text.length + 7 := by
  unfold LineText.line
  simp only [List.length_append, List.length_cons, List.length_nil, four]
  omega

/-- The text starts behind one space. -/
theorem LineText.spaced (four : (ascii keyword).length = 4) : Spaced (line.line keyword) 5 := by
  have behind : (line.line keyword).drop 4 = SP :: (line.text ++ [CR, LF]) := List.drop_left' four
  have space : (line.line keyword)[4]? = some SP := by
    rw [← List.head?_drop, behind]
    rfl
  have text : (line.line keyword).drop 5 = line.text ++ [CR, LF] := by
    rw [show 5 = 4 + 1 from rfl, ← List.drop_drop, behind]
    rfl
  obtain ⟨c, rest, same⟩ := List.exists_cons_of_ne_nil line.nonempty
  refine ⟨by decide, fun i low high => ?_, c, ?_, ?_⟩
  · have here : i = 4 := by omega
    rw [here]
    exact space
  · rw [← List.head?_drop, text, same]
    rfl
  · intro blank
    have unspaced := line.unspaced
    rw [same, blank] at unspaced
    exact unspaced rfl

/-- A byte of the text. -/
theorem LineText.getElem_text (four : (ascii keyword).length = 4) (i : Nat) :
    (line.line keyword)[5 + i]? = (line.text ++ [CR, LF])[i]? := by
  have text : (line.line keyword).drop 5 = line.text ++ [CR, LF] := by
    have behind : (line.line keyword).drop 4 = SP :: (line.text ++ [CR, LF]) :=
      List.drop_left' four
    rw [show 5 = 4 + 1 from rfl, ← List.drop_drop, behind]
    rfl
  rw [← text, List.getElem?_drop]

/-- The parser of a text stops at the line end. -/
theorem LineText.parseText_line (four : (ascii keyword).length = 4)
    (small : (line.line keyword).length < 2 ^ 62) (m : Msg) :
    parseText 5 (.ofList (line.line keyword)) m = .ok ⟨(line.line keyword).length,
      { m with bstart := 5, bend := 5 + line.text.length },
      (line.line keyword).set (5 + line.text.length) 0⟩ := by
  have length := line.length_line four
  have positive := List.length_pos_of_ne_nil line.nonempty
  have small' : (line.line keyword).length < 2 ^ 63 := by omega
  have cr : (line.line keyword)[5 + line.text.length]? = some CR := by
    rw [line.getElem_text four, List.getElem?_append_right (Nat.le_refl _), Nat.sub_self]
    rfl
  have lf : (line.line keyword)[5 + line.text.length + 1]? = some LF := by
    rw [Nat.add_assoc, line.getElem_text four, List.getElem?_append_right (Nat.le_succ _)]
    show [CR, LF][line.text.length + 1 - line.text.length]? = some LF
    rw [Nat.add_sub_cancel_left]
    rfl
  have first (i : Nat) (low : 5 < i) (high : i < 5 + line.text.length) :
      (line.line keyword)[i]? ≠ some CR := by
    obtain ⟨j, rfl⟩ := Nat.exists_eq_add_of_le (Nat.le_of_lt low)
    have inside : j < line.text.length := by omega
    rw [line.getElem_text four, List.getElem?_append_left inside,
      List.getElem?_eq_getElem inside]
    intro same
    exact line.plain (Option.some.inj same ▸ List.getElem_mem inside)
  rw [parseText_eq small' (Nat.lt_add_of_pos_right positive) cr lf first m, length]
  have rc : ((5 + line.text.length : Nat) : Int) + 2 = ((line.text.length + 7 : Nat) : Int) := by
    omega
  rw [rc]

end Line

/-- A message of the server. -/
inductive ServerLine
  | ok | ping | pong
  | err (line : LineText)
  | info (line : LineText)
  | msg (wire : WireMsg)

namespace ServerLine

/-- What the server writes. -/
def bytes : ServerLine → List UInt8
  | ok => ascii "+OK\r\n"
  | ping => ascii "PING\r\n"
  | pong => ascii "PONG\r\n"
  | err line => line.line "-ERR"
  | info line => line.line "INFO"
  | msg wire => wire.frame

/-- What the server says. -/
def message : ServerLine → ServerMsg
  | ok => ⟨.ok, 0, [], [], []⟩
  | ping => ⟨.ping, 0, [], [], []⟩
  | pong => ⟨.pong, 0, [], [], []⟩
  | err line => ⟨.err, 0, [], [], line.text⟩
  | info line => ⟨.info, 0, [], [], line.text⟩
  | msg wire => ⟨.msg, decimalValue wire.sid, wire.subject, wire.replyto.getD [], wire.payload⟩

end ServerLine

/-- The text of a line, as the reader hands it on. -/
theorem serverMsg_text {keyword : String} {line : LineText} (four : (ascii keyword).length = 4)
    (small : (line.line keyword).length < 2 ^ 62) (type : MsgType) :
    serverMsg ⟨(line.line keyword).length,
      { type := type, bstart := 5, bend := 5 + line.text.length },
      (line.line keyword).set (5 + line.text.length) 0⟩ = ⟨type, 0, [], [], line.text⟩ := by
  have length := line.length_line four
  have size : Word.unsigned (((5 + line.text.length : Nat) : Int) - (5 : Nat)) =
      line.text.length := by
    unfold Word.unsigned
    omega
  have text : (line.line keyword).drop 5 = line.text ++ [CR, LF] := by
    have behind : (line.line keyword).drop 4 = SP :: (line.text ++ [CR, LF]) :=
      List.drop_left' four
    rw [show 5 = 4 + 1 from rfl, ← List.drop_drop, behind]
    rfl
  have body : (((line.line keyword).set (5 + line.text.length) 0).drop 5).take line.text.length =
      line.text := by
    rw [List.drop_set, if_neg (by omega), Nat.add_sub_cancel_left,
      List.take_set_of_le (Nat.le_refl _),
      text, List.take_left]
  unfold serverMsg
  simp only [size, body, ServerMsg.mk.injEq, true_and, and_true]
  exact ⟨List.take_zero, List.take_zero⟩

/-- A text behind its keyword is parsed as a text. -/
theorem parse_text {keyword : String} {line : LineText} {type : MsgType}
    (four : (ascii keyword).length = 4)
    (plain : ∀ i < 4, ∃ c, (line.line keyword)[i]? = some c ∧ (c ≠ LF && c ≠ SP && c ≠ CR) = true)
    (small : (line.line keyword).length < 2 ^ 62)
    (turns : parseKeyword (.ofList (line.line keyword)) 4 {} =
      parseText 5 (.ofList (line.line keyword)) { type := type }) :
    parse (.ofList (line.line keyword)) = .ok ⟨(line.line keyword).length,
      { type := type, bstart := 5, bend := 5 + line.text.length },
      (line.line keyword).set (5 + line.text.length) 0⟩ := by
  have space := (line.spaced four).spaces 4 (Nat.le_refl 4) (line.spaced four).nonempty
  have word : LeadWord (line.line keyword) 4 := ⟨plain, .inl space⟩
  rw [word.parse_eq, turns, line.parseText_line four small]

/-- The keyword of a line. -/
theorem LineText.take_line {keyword : String} {line : LineText}
    (four : (ascii keyword).length = 4) : (line.line keyword).take 4 = ascii keyword :=
  List.take_left' four

/-- An error line is parsed. -/
theorem parse_errLine {line : LineText} (small : (line.line "-ERR").length < 2 ^ 62) :
    parse (.ofList (line.line "-ERR")) = .ok ⟨(line.line "-ERR").length,
      { type := .err, bstart := 5, bend := 5 + line.text.length },
      (line.line "-ERR").set (5 + line.text.length) 0⟩ := by
  have four : (ascii "-ERR").length = 4 := by decide
  have first := line.take_line four
  have err : strncasecmp ((line.line "-ERR").take 4) "-ERR" = true := by
    rw [first]
    decide
  apply parse_text four (keyword_plain err (by decide) (by decide +kernel)) small
  have three : (4 : Nat) ≠ 3 := by decide
  rw [← (line.spaced four).parseErr_eq {}]
  simp only [parseKeyword, ofList_data, three, err, ↓reduceIte]

/-- An INFO line is parsed. -/
theorem parse_infoLine {line : LineText} (small : (line.line "INFO").length < 2 ^ 62) :
    parse (.ofList (line.line "INFO")) = .ok ⟨(line.line "INFO").length,
      { type := .info, bstart := 5, bend := 5 + line.text.length },
      (line.line "INFO").set (5 + line.text.length) 0⟩ := by
  have four : (ascii "INFO").length = 4 := by decide
  have first := line.take_line four
  have info : strncasecmp ((line.line "INFO").take 4) "INFO" = true := by
    rw [first]
    decide
  have others : strncasecmp ((line.line "INFO").take 4) "-ERR" = false ∧
      strncasecmp ((line.line "INFO").take 4) "PING" = false ∧
      strncasecmp ((line.line "INFO").take 4) "PONG" = false := by
    rw [first]
    decide
  obtain ⟨err, ping, pong⟩ := others
  apply parse_text four (keyword_plain info (by decide) (by decide +kernel)) small
  have three : (4 : Nat) ≠ 3 := by decide
  rw [← (line.spaced four).parseInfoLine_eq {}]
  simp only [parseKeyword, ofList_data, three, err, ping, pong, info, Bool.false_eq_true,
    ↓reduceIte]

/-- The length a MSG frame declares is that of its payload. -/
theorem WireMsg.words (wire : WireMsg) (small : wire.frame.length < 2 ^ 62) (more : List UInt8)
    (max : Nat) (tokens : MsgTokens) (frame : FrameLine (wire.frame ++ more) max tokens) :
    tokens.lenValue (wire.frame ++ more) < 2 ^ 63 := by
  have length := wire.frame_length
  have shape := wire.frame_append more
  have own : FrameLine (wire.frame ++ more) wire.header.length wire.tokens := by
    rw [shape]
    exact frameLine
  have declared : wire.tokens.lenValue (wire.frame ++ more) = wire.payload.length := by
    rw [shape]
    exact values.2
  obtain ⟨-, same⟩ := frame.line.unique own.line
  rw [same, declared]
  omega

/-- Every message of a server is taken back from what was written. -/
theorem ServerLine.written (line : ServerLine) (small : line.bytes.length < 2 ^ 62) :
    Written line.bytes line.message := by
  cases line with
  | ok =>
    have run : parse (.ofList (ascii "+OK\r\n")) = .ok ⟨5, { type := .ok }, ascii "+OK\r\n"⟩ := by
      decide +kernel
    exact written_of_parse small (words_of_keyword (by decide) (by decide)) run (by decide) rfl
  | ping =>
    have run : parse (.ofList (ascii "PING\r\n")) =
        .ok ⟨6, { type := .ping }, ascii "PING\r\n"⟩ := by decide +kernel
    exact written_of_parse small (words_of_keyword (by decide) (by decide)) run (by decide) rfl
  | pong =>
    have run : parse (.ofList (ascii "PONG\r\n")) =
        .ok ⟨6, { type := .pong }, ascii "PONG\r\n"⟩ := by decide +kernel
    exact written_of_parse small (words_of_keyword (by decide) (by decide)) run (by decide) rfl
  | err line =>
    have four : (ascii "-ERR").length = 4 := by decide
    have three : (line.line "-ERR").take 3 = ascii "-ER" := by
      rw [show (3 : Nat) = min 3 4 from rfl, ← List.take_take, line.take_line four]
      decide
    have long := line.length_line four
    have words := @words_of_keyword (line.line "-ERR") (by omega) (by rw [three]; decide)
    exact written_of_parse small words (parse_errLine small) rfl (serverMsg_text four small .err)
  | info line =>
    have four : (ascii "INFO").length = 4 := by decide
    have three : (line.line "INFO").take 3 = ascii "INF" := by
      rw [show (3 : Nat) = min 3 4 from rfl, ← List.take_take, line.take_line four]
      decide
    have long := line.length_line four
    have words := @words_of_keyword (line.line "INFO") (by omega) (by rw [three]; decide)
    exact written_of_parse small words (parse_infoLine small) rfl (serverMsg_text four small .info)
  | msg wire =>
    have small' : (wire.frame ++ []).length < 2 ^ 63 := by
      rw [List.append_nil]
      exact Nat.lt_trans small (by decide)
    have run := wire.parse_frame [] small'
    have decoded := wire.decoded []
    rw [List.append_nil] at run decoded
    refine written_of_parse small (wire.words small) run rfl ?_
    have length := wire.frame_length
    have declared : wire.tokens.lenValue wire.frame = wire.payload.length := WireMsg.values.2
    have stop : (wire.message wire.frame).bend =
        wire.header.length + 2 + wire.tokens.lenValue wire.frame := rfl
    have ordered : (wire.message wire.frame).bstart ≤ (wire.message wire.frame).bend :=
      decoded.ordered
    have short : wire.frame.length < 2 ^ 62 := small
    have size : Word.unsigned (((wire.message wire.frame).bend : Int) -
        (wire.message wire.frame).bstart) =
        (wire.message wire.frame).bend - (wire.message wire.frame).bstart := by
      unfold Word.unsigned
      omega
    have body := decoded.body
    unfold Slice.bytes at body
    dsimp only at body
    unfold serverMsg ServerLine.message
    rw [decoded.type, decoded.sid, decoded.subject, decoded.replyto]
    dsimp only
    rw [size, body]

end NgxNats
