import NgxNats.Verif.Parse

/-!
# Soundness of accepted frames

What a caller of `ngx_nats_parse` relies on: the buffer is not left, an accepted length and body
lie inside it, and a MSG frame carries the sid and the length its header declares. The digit loop
wraps around silently, so this holds exactly when no complete MSG header line declares a number
that does not fit, unless its payload is refused anyway.
-/
namespace NgxNats

variable {b : List UInt8} {max : Nat} {tokens : MsgTokens}

/-- The length of the keyword of a message type. -/
def MsgType.headerLen : MsgType → Nat
  | .unset => 0
  | .ok | .msg => 3
  | .err | .ping | .pong | .info => 4

/-- The facts about a positive result. -/
structure Accepted (b : List UInt8) (parsed : Parsed) : Prop where
  least : 5 ≤ parsed.rc
  inside : parsed.rc ≤ b.length
  body : parsed.msg.type = .err ∨ parsed.msg.type = .info ∨ parsed.msg.type = .msg →
    parsed.msg.type.headerLen ≤ parsed.msg.bstart ∧ parsed.msg.bstart ≤ parsed.msg.bend ∧
      parsed.msg.bend + 2 = parsed.rc
  numbers : parsed.msg.type = .msg → ∃ max tokens, FrameLine b max tokens ∧
    parsed.msg.sid = tokens.sidValue b ∧ parsed.msg.len = tokens.lenValue b ∧
      (parsed.msg.bend : Int) - parsed.msg.bstart = parsed.msg.len

/-- A header whose sid and length fit in an `ngx_int_t`. -/
def NumbersFit (b : List UInt8) (tokens : MsgTokens) : Prop :=
  tokens.sidValue b < 2 ^ 63 ∧ tokens.lenValue b < 2 ^ 63

/-- `ngx_nats_parse` returns without leaving the buffer, what it accepts is accepted soundly, and
a frame whose sid or length does not fit is refused. -/
def Sound (b : List UInt8) : Prop :=
  ∃ parsed, parse (.ofList b) = .ok parsed ∧ (0 < parsed.rc → Accepted b parsed) ∧
    ∀ max tokens, FrameLine b max tokens → ¬NumbersFit b tokens →
      parsed.rc = protoErrInvalidMsg

/-- Two bytes are left in the buffer where the wrapped end of the payload points, and they are
not CRLF. -/
def PayloadRefused (b : List UInt8) (max : Nat) (tokens : MsgTokens) : Prop :=
  let stop := (max + 2 + tokens.lenValue b) % 2 ^ 64
  stop + 2 ≤ b.length ∧ ¬(b[stop]? = some CR ∧ b[stop + 1]? = some LF)

/-- The numbers of a header fit, and so does the end of the frame. -/
def FrameFits (b : List UInt8) (max : Nat) (tokens : MsgTokens) : Prop :=
  NumbersFit b tokens ∧ max + 2 + tokens.lenValue b + 2 < 2 ^ 64

/-- A frame that fits has a length that fits. -/
theorem FrameFits.len (fits : FrameFits b max tokens) : LenFits max (tokens.lenValue b) :=
  ⟨fits.1.2, fits.2⟩

/-- An accepted keyword line is sound. -/
theorem accepted_bare {keyword : Nat} {type : MsgType} {parsed : Parsed} (three : 3 ≤ keyword)
    (plain : type = .ok ∨ type = .ping ∨ type = .pong)
    (frame : BareFrame keyword type b {} parsed) : Accepted b parsed := by
  obtain ⟨rfl, -, lf⟩ := frame
  have inside := (List.getElem?_eq_some_iff.mp lf).1
  refine ⟨by simp only; omega, by simp only; omega, fun other => ?_, fun other => ?_⟩
  · rcases plain with rfl | rfl | rfl
    · rcases other with other | other | other <;> cases other
    · rcases other with other | other | other <;> cases other
    · rcases other with other | other | other <;> cases other
  · rcases plain with rfl | rfl | rfl <;> cases other

/-- An accepted text is sound. -/
theorem accepted_text {n : Nat} {type : MsgType} {parsed : Parsed} (after : 4 < n)
    (text : type = .err ∨ type = .info) (frame : TextFrame n b { type := type } parsed) :
    Accepted b parsed := by
  obtain ⟨start, result, -, lf, -⟩ := frame
  have inside := (List.getElem?_eq_some_iff.mp lf).1
  have rc : parsed.rc = parsed.msg.bend + 2 := congrArg Parsed.rc result
  have bstart : parsed.msg.bstart = n := congrArg (·.msg.bstart) result
  have kind : parsed.msg.type = type := congrArg (·.msg.type) result
  refine ⟨by omega, by omega, fun _ => ⟨?_, by omega, by omega⟩, fun other => ?_⟩
  · rw [kind]
    rcases text with rfl | rfl
    · simp only [MsgType.headerLen]
      omega
    · simp only [MsgType.headerLen]
      omega
  · rw [kind] at other
    rcases text with rfl | rfl
    · cases other
    · cases other

/-- An accepted `-ERR` without a text is sound. -/
theorem accepted_empty {parsed : Parsed} (frame : EmptyFrame 4 b { type := .err } parsed) :
    Accepted b parsed := by
  obtain ⟨rfl, -, lf⟩ := frame
  have inside := (List.getElem?_eq_some_iff.mp lf).1
  exact ⟨by simp only; omega, by simp only; omega,
    fun _ => ⟨Nat.le_refl 4, Nat.le_refl 4, rfl⟩, fun other => by cases other⟩

/-- An accepted MSG frame whose sid fits is sound. -/
theorem accepted_msg {parsed : Parsed} (keyword : strncasecmp (b.take 3) "MSG" = true)
    (frame : MsgFrame 3 b {} max tokens parsed) (sid : tokens.sidValue b < 2 ^ 63) :
    Accepted b parsed := by
  obtain ⟨line, fits, inside, -, -, rfl⟩ := frame
  have start := line.start
  refine ⟨by simp only; omega, by simp only; omega, fun _ => ?_, fun _ =>
    ⟨max, tokens, ⟨keyword, line⟩, ?_, ?_, ?_⟩⟩
  · simp only [MsgTokens.accepted, MsgTokens.formed, MsgType.headerLen]
    omega
  · simp only [MsgTokens.accepted, MsgTokens.formed]
    exact signed_of_small sid
  · simp only [MsgTokens.accepted, MsgTokens.formed]
    exact signed_of_small fits.signed
  · simp only [MsgTokens.accepted, MsgTokens.formed]
    rw [signed_of_small fits.signed]
    omega

/-- Every accepted frame is sound when its sid fits. -/
theorem accepted_frame {parsed : Parsed} (frame : Frame b parsed)
    (sid : ∀ max tokens, MsgFrame 3 b {} max tokens parsed → FrameLine b max tokens →
      tokens.sidValue b < 2 ^ 63) : Accepted b parsed := by
  cases frame with
  | ok frame => exact accepted_bare (Nat.le_refl 3) (.inl rfl) frame
  | ping frame => exact accepted_bare (by decide) (.inr (.inl rfl)) frame
  | pong frame => exact accepted_bare (by decide) (.inr (.inr rfl)) frame
  | err frame =>
    rcases frame with frame | ⟨n, after, frame⟩
    · exact accepted_empty frame
    · exact accepted_text after (.inl rfl) frame
  | info frame =>
    obtain ⟨n, after, frame⟩ := frame
    exact accepted_text after (.inr rfl) frame
  | msg max tokens keyword frame =>
    exact accepted_msg keyword frame (sid max tokens frame ⟨keyword, frame.line⟩)

/-- A refused payload is refused by the parser. -/
theorem parse_refused (frame : FrameLine b max tokens) (small : b.length < 2 ^ 63)
    (refused : PayloadRefused b max tokens) :
    parse (.ofList b) = .ok ⟨protoErrInvalidMsg, tokens.formed b { type := .msg }, b⟩ := by
  obtain ⟨inside, other⟩ := refused
  rw [frame.parse_eq]
  exact parseMsgPayload_refused (payloadEnd_wrapped rfl (by omega))
    (by simp only [MsgTokens.formed]) inside other

/-- A payload with CRLF at its wrapped end is accepted, if the terminators can be written. -/
theorem parseMsgPayload_positive {m : Msg} {len stop : Nat} {parsed : Parsed}
    (ends : PayloadEnd max len stop) (wrapped : stop = (max + 2 + len) % 2 ^ 64)
    (length : m.len = Word.signed len) (small : stop + 2 < 2 ^ 63)
    (cr : b[stop]? = some CR) (lf : b[stop + 1]? = some LF)
    (run : parseMsgPayload (max + 2) (.ofList b) m = .ok parsed) : parsed.rc = stop + 2 := by
  have inside := (List.getElem?_eq_some_iff.mp lf).1
  have enough : ¬b.length < stop + 2 := by omega
  have rc : Word.signed (((max + 2 : Nat) : Int) + Word.signed len + 2) = stop + 2 := by
    have exact := signed_of_small small
    have congruent : (((max + 2 : Nat) : Int) + len + 2).bmod (2 ^ 64) =
        ((stop + 2 : Nat) : Int).bmod (2 ^ 64) := by
      rw [Int.bmod_eq_bmod_iff_bmod_sub_eq_zero, ← Int.dvd_iff_bmod_eq_zero]
      omega
    rw [Word.signed_add_signed]
    unfold Word.signed at exact ⊢
    rw [congruent, exact]
    push_cast
    rfl
  simp only [parseMsgPayload, length, ends.whole, ends.first, ends.next, ofList_len, ofList_data,
    enough, load_ok.mpr cr, load_ok.mpr lf, bind, Except.bind, ne_eq, not_true_eq_false, rc,
    ↓reduceIte] at run
  obtain ⟨_, _, run⟩ := except_bind_ok.mp run
  split at run
  · obtain ⟨_, _, run⟩ := except_bind_ok.mp run
    obtain ⟨_, _, run⟩ := except_bind_ok.mp run
    cases run
    rfl
  · obtain ⟨_, _, run⟩ := except_bind_ok.mp run
    cases run
    rfl

/-- A frame that does not fit is refused only where its payload is. -/
theorem refused_of_sound (frame : FrameLine b max tokens) (small : b.length < 2 ^ 63)
    (sound : Sound b) (unfit : ¬FrameFits b max tokens) : PayloadRefused b max tokens := by
  obtain ⟨parsed, run, -, rejected⟩ := sound
  have rejected := rejected max tokens frame
  have start := frame.line.inside
  have length : (tokens.formed b { type := .msg }).len = Word.signed (tokens.lenValue b) := by
    simp only [MsgTokens.formed]
  rw [frame.parse_eq] at run
  by_cases inside : (max + 2 + tokens.lenValue b) % 2 ^ 64 + 2 < 2 ^ 64
  · have ends := payloadEnd_wrapped rfl inside
    have numbers : ¬NumbersFit b tokens := fun numbers => unfit ⟨numbers, by
      have := numbers.2
      omega⟩
    have rejected := rejected numbers
    by_cases inside : (max + 2 + tokens.lenValue b) % 2 ^ 64 + 2 ≤ b.length
    · refine ⟨inside, fun ended => ?_⟩
      have accepted := parseMsgPayload_positive ends rfl length (by omega) ended.1 ended.2 run
      rw [rejected, protoErrInvalidMsg] at accepted
      omega
    · rw [parseMsgPayload_again ends length (by omega), Except.ok.injEq] at run
      rw [← run] at rejected
      cases rejected
  · -- The sum in the length check wraps below the length and the CR is read far outside.
    have first : Word.unsigned (((max + 2 : Nat) : Int) + Word.signed (tokens.lenValue b)) =
        (max + 2 + tokens.lenValue b) % 2 ^ 64 := by
      have exact := Word.unsigned_add_signed (max + 2 : Nat) (tokens.lenValue b) 0
      rw [Int.add_zero, Int.add_zero] at exact
      rw [exact]
      unfold Word.unsigned
      omega
    have whole : Word.unsigned (((max + 2 : Nat) : Int) + Word.signed (tokens.lenValue b) + 2) ≤
        1 := by
      rw [Word.unsigned_add_signed]
      unfold Word.unsigned
      omega
    have enough : ¬b.length < Word.unsigned
        (((max + 2 : Nat) : Int) + Word.signed (tokens.lenValue b) + 2) := by omega
    simp only [parseMsgPayload, length, ofList_len, ofList_data, enough, first,
      load_outside (show b.length ≤ (max + 2 + tokens.lenValue b) % 2 ^ 64 by omega), bind,
      Except.bind, ↓reduceIte] at run
    cases run

/-- The parser is sound on a buffer if and only if every complete MSG header line at its start
declares numbers that fit or is refused at its payload. -/
theorem parse_sound_iff (small : b.length < 2 ^ 63) : Sound b ↔
    ∀ max tokens, FrameLine b max tokens →
      FrameFits b max tokens ∨ PayloadRefused b max tokens := by
  constructor
  · intro sound max tokens frame
    by_cases fits : FrameFits b max tokens
    · exact .inl fits
    · exact .inr (refused_of_sound frame small sound fits)
  · intro each
    by_cases lengths : ∀ max tokens, FrameLine b max tokens → LenFits max (tokens.lenValue b)
    · obtain ⟨parsed, outcome⟩ := parse_outcome small lengths
      refine ⟨parsed, outcome.returns, fun positive => ?_, fun max tokens frame unfit => ?_⟩
      · refine accepted_frame (outcome.accepted (by omega)) fun max tokens frame line => ?_
        rcases each max tokens line with fits | ⟨_, other⟩
        · exact fits.1.1
        · have whole := frame.fits.unsigned
          rw [Nat.mod_eq_of_lt (by omega)] at other
          exact (other ⟨frame.cr, frame.lf⟩).elim
      · rcases each max tokens frame with fits | refused
        · exact (unfit fits.1).elim
        · have run := parse_refused frame small refused
          rw [outcome.returns, Except.ok.injEq] at run
          rw [run]
    · simp only [not_forall] at lengths
      obtain ⟨max, tokens, frame, unfit⟩ := lengths
      have refused := (each max tokens frame).resolve_left fun fits => unfit fits.len
      refine ⟨_, parse_refused frame small refused, fun positive => ?_, fun _ _ _ _ => rfl⟩
      simp only [protoErrInvalidMsg] at positive
      omega

/-- A frame with a short payload is parsed soundly. -/
theorem parse_sound_hi : Sound (ascii "MSG a 1 2\r\nhi\r\n") ↔
    ∀ max tokens, FrameLine (ascii "MSG a 1 2\r\nhi\r\n") max tokens →
      FrameFits (ascii "MSG a 1 2\r\nhi\r\n") max tokens ∨
        PayloadRefused (ascii "MSG a 1 2\r\nhi\r\n") max tokens :=
  parse_sound_iff (by
    have length : (ascii "MSG a 1 2\r\nhi\r\n").length = 15 := by decide
    omega)

/-- A declared length of `2^64 - 2` is taken for `-2`: the frame is accepted with a body that ends
before it starts. -/
theorem parse_unsound_wrapped : ¬Sound (ascii "MSG a 1 18446744073709551614\r\n") := by
  rintro ⟨parsed, run, accepted, -⟩
  have positions : (parse (.ofList (ascii "MSG a 1 18446744073709551614\r\n"))).map
      (fun parsed => (parsed.rc, parsed.msg.type, parsed.msg.bstart, parsed.msg.bend)) =
        .ok (30, .msg, 30, 28) := by decide +kernel
  rw [run, Except.map, Except.ok.injEq, Prod.mk.injEq, Prod.mk.injEq, Prod.mk.injEq] at positions
  obtain ⟨rc, type, bstart, bend⟩ := positions
  have body := (accepted (by omega)).body (.inr (.inr type))
  omega

end NgxNats
