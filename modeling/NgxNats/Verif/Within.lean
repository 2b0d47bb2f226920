import NgxNats.Model.Protocol

/-!
# What the parser consumes

Whatever length the parser is given, and whatever memory lies behind it, what it returns as consumed
is at most that length. A MSG frame whose declared length wraps around is no exception: the sum it
is compared with wraps around in the same way.
-/
namespace NgxNats

/-- A parser that returns consumes no more than it was given. -/
def Within (len : Nat) (result : Except Fault Parsed) : Prop :=
  ∀ parsed, result = .ok parsed → parsed.rc ≤ len

section Within

variable {α : Type} {len : Nat}

/-- A result that consumes at most the length is within it. -/
theorem within_ok {rc : Int} {m : Msg} {data : List UInt8} (inside : rc ≤ len) :
    Within len (.ok ⟨rc, m, data⟩) := by
  intro parsed result
  cases result
  exact inside

/-- A refusal consumes nothing. -/
theorem within_refused {rc : Int} {m : Msg} {data : List UInt8} (negative : rc < 0) :
    Within len (.ok ⟨rc, m, data⟩) := within_ok (by omega)

/-- What follows is within the length where each of its continuations is. -/
theorem within_bind {first : Except Fault α} {next : α → Except Fault Parsed}
    (each : ∀ value, Within len (next value)) : Within len (first >>= next) := by
  cases first with
  | error stop =>
    intro parsed result
    cases result
  | ok value => exact each value

/-- A wrapped length is at most the exact one. -/
theorem signed_le (value : Nat) : Word.signed value ≤ value := by
  unfold Word.signed
  simp only [Int.bmod_def]
  split
  · omega
  · omega

/-- A signed word is at most the unsigned word of the same value. -/
theorem signed_le_unsigned (value : Int) : Word.signed value ≤ Word.unsigned value := by
  unfold Word.signed Word.unsigned
  simp only [Int.bmod_def]
  split
  · omega
  · omega

/-- A keyword line without a text consumes bytes of the buffer only. -/
theorem parseBare_within (keyword : Nat) (type : MsgType) (bytes : Str) (m : Msg) :
    Within bytes.len (parseBare keyword type bytes m) := by
  unfold parseBare
  dsimp only
  split
  · exact within_refused (by decide)
  apply within_bind
  intro first
  split
  · exact within_refused (by decide)
  split
  · exact within_refused (by decide)
  · next room =>
    apply within_bind
    intro second
    split
    · exact within_refused (by decide)
    · exact within_ok (by omega)

/-- A text line consumes bytes of the buffer only. -/
theorem parseText_within (n : Nat) (bytes : Str) (m : Msg) :
    Within bytes.len (parseText n bytes m) := by
  apply within_bind
  intro n
  split
  · exact within_refused (by decide)
  · next room =>
    apply within_bind
    intro c
    split
    · exact within_refused (by decide)
    · apply within_bind
      intro data
      have bound := signed_le (n + 2)
      exact within_ok (by push_cast at bound ⊢; omega)

/-- An error line consumes bytes of the buffer only. -/
theorem parseErr_within (bytes : Str) (headerLen : Nat) (m : Msg) :
    Within bytes.len (parseErr bytes headerLen m) := by
  apply within_bind
  intro n
  split
  · exact within_refused (by decide)
  · next room =>
    split
    · apply within_bind
      intro c
      split
      · exact within_refused (by decide)
      split
      · exact within_refused (by decide)
      · next last =>
        apply within_bind
        intro c
        split
        · exact within_refused (by decide)
        · apply within_bind
          intro data
          have bound := signed_le (n + 2)
          exact within_ok (by push_cast at bound ⊢; omega)
    · exact parseText_within n bytes _

/-- An INFO line consumes bytes of the buffer only. -/
theorem parseInfoLine_within (bytes : Str) (headerLen : Nat) (m : Msg) :
    Within bytes.len (parseInfoLine bytes headerLen m) := by
  apply within_bind
  intro n
  split
  · exact within_refused (by decide)
  split
  · exact within_refused (by decide)
  · exact parseText_within n bytes _

/-- A payload and its CRLF end inside the buffer. -/
theorem parseMsgPayload_within (ns : Nat) (bytes : Str) (m : Msg) :
    Within bytes.len (parseMsgPayload ns bytes m) := by
  unfold parseMsgPayload
  split
  · exact within_refused (by decide)
  · next room =>
    apply within_bind
    intro c
    split
    · exact within_refused (by decide)
    apply within_bind
    intro c
    split
    · exact within_refused (by decide)
    apply within_bind
    intro first
    have bound := signed_le_unsigned (ns + m.len + 2)
    have ends (second : List UInt8) : Within bytes.len (do
        let data ← store second (Word.unsigned (ns + m.len)) 0
        return ⟨Word.signed (ns + m.len + 2),
          { m with bstart := ns, bend := Word.unsigned (ns + m.len) }, data⟩) := by
      apply within_bind
      intro data
      exact within_ok (by omega)
    split
    · exact within_bind ends
    · exact ends first

/-- A MSG frame ends inside the buffer. -/
theorem parseMsg_within (bytes : Str) (headerLen : Nat) (m : Msg) :
    Within bytes.len (parseMsg bytes headerLen m) := by
  apply within_bind
  intro c
  split
  · exact within_refused (by decide)
  apply within_bind
  intro n
  split
  · exact within_refused (by decide)
  apply within_bind
  intro c
  split
  · exact within_refused (by decide)
  apply within_bind
  intro header
  cases header with
  | none => exact within_refused (by decide)
  | some m => exact parseMsgPayload_within (n + 2) bytes m

/-- Whatever keyword a line starts with, it consumes bytes of the buffer only. -/
theorem parseKeyword_within (bytes : Str) (p : Nat) (m : Msg) :
    Within bytes.len (parseKeyword bytes p m) := by
  unfold parseKeyword
  dsimp only
  split
  · split
    · exact parseBare_within 3 .ok bytes m
    split
    · exact parseMsg_within bytes p m
    · exact within_refused (by decide)
  split
  · split
    · exact parseErr_within bytes p m
    split
    · exact parseBare_within 4 .ping bytes m
    split
    · exact parseBare_within 4 .pong bytes m
    split
    · exact parseInfoLine_within bytes p m
    · exact within_refused (by decide)
  · exact within_refused (by decide)

/-- The parser consumes no more than it was given. -/
theorem parse_within (bytes : Str) : Within bytes.len (parse bytes) := by
  apply within_bind
  intro p
  split
  · exact within_refused (by decide)
  apply within_bind
  intro c
  split
  · exact within_refused (by decide)
  · exact parseKeyword_within bytes p {}

end Within

end NgxNats
