import NgxNats.Verif.Header

/-!
# Frames

What each parser does on a byte list: it returns, a result other than `NGX_NATS_PROTO_AGAIN`
stays the same when bytes are appended, a negative result leaves the bytes alone, and an
accepted frame has the shape of its type. `parse_outcome` collects this for `ngx_nats_parse`.
-/
namespace NgxNats

/-- The result of a parser on a longer buffer with the same beginning. -/
def Parsed.extend (parsed : Parsed) (more : List UInt8) : Parsed :=
  { parsed with data := parsed.data ++ more }

/-- A parser returns on `b`; unless it asks for more bytes, it returns the same on every longer
buffer; when it does not accept, it leaves the bytes alone; what it accepts satisfies `shape`. -/
structure Outcome (parser : Str → Except Fault Parsed) (b : List UInt8) (parsed : Parsed)
    (shape : Parsed → Prop) : Prop where
  returns : parser (.ofList b) = .ok parsed
  stable : parsed.rc ≠ protoAgain → ∀ more, parser (.ofList (b ++ more)) = .ok (parsed.extend more)
  refused : parsed.rc < 0 → parsed.data = b
  accepted : 0 ≤ parsed.rc → shape parsed

namespace Outcome

variable {parser : Str → Except Fault Parsed} {b : List UInt8} {shape : Parsed → Prop}

/-- Asking for more bytes. -/
theorem again {m : Msg} (run : parser (.ofList b) = .ok ⟨protoAgain, m, b⟩) :
    Outcome parser b ⟨protoAgain, m, b⟩ shape :=
  ⟨run, fun absurd => (absurd rfl).elim, fun _ => rfl, fun absurd => by
    simp only [protoAgain] at absurd
    omega⟩

/-- Refusing the bytes with an error code. -/
theorem error {rc : Int} {m : Msg} (negative : rc < 0)
    (run : ∀ more, parser (.ofList (b ++ more)) = .ok ⟨rc, m, b ++ more⟩) :
    Outcome parser b ⟨rc, m, b⟩ shape :=
  ⟨by simpa using run [], fun _ more => run more, fun _ => rfl, fun absurd => by
    simp only at absurd
    omega⟩

/-- A parser that agrees with another one on `b` and on every longer buffer. -/
theorem congr {other : Str → Except Fault Parsed} {parsed : Parsed}
    (outcome : Outcome other b parsed shape)
    (same : ∀ more, parser (.ofList (b ++ more)) = other (.ofList (b ++ more))) :
    Outcome parser b parsed shape := by
  have here := same []
  rw [List.append_nil] at here
  exact ⟨here.trans outcome.returns,
    fun final more => (same more).trans (outcome.stable final more),
    outcome.refused, outcome.accepted⟩

/-- A weaker shape. -/
theorem weaken {parsed : Parsed} {other : Parsed → Prop} (outcome : Outcome parser b parsed shape)
    (implied : shape parsed → other parsed) : Outcome parser b parsed other :=
  ⟨outcome.returns, outcome.stable, outcome.refused, fun holds => implied (outcome.accepted holds)⟩

end Outcome

variable {b : List UInt8}

/-- The length of a string made of bytes is their number. -/
theorem ofList_len (b : List UInt8) : (Str.ofList b).len = b.length := rfl

/-- The memory of a string made of bytes is the bytes. -/
theorem ofList_data (b : List UInt8) : (Str.ofList b).data = b := rfl

/-- A byte of a buffer read on a longer one. -/
theorem load_append_inside {index : Nat} (more : List UInt8) (inside : index < b.length) :
    load (b ++ more) index = .ok b[index] := load_append more (load_inside inside)

/-- An accepted `+OK`, `PING` or `PONG`: CRLF right after the keyword. -/
structure BareFrame (keyword : Nat) (type : MsgType) (b : List UInt8) (m : Msg)
    (parsed : Parsed) : Prop where
  result : parsed = ⟨keyword + 2, { m with type := type }, b⟩
  cr : b[keyword]? = some CR
  lf : b[keyword + 1]? = some LF

/-- What the parser of a keyword line does. -/
theorem parseBare_outcome (keyword : Nat) (type : MsgType) (b : List UInt8) (m : Msg) :
    ∃ parsed, Outcome (fun bytes => parseBare keyword type bytes m) b parsed
      (BareFrame keyword type b m) := by
  by_cases first : b.length < keyword + 1
  · refine ⟨⟨protoAgain, { m with type := type }, b⟩, .again ?_⟩
    simp only [parseBare, ofList_len, ofList_data, first, ↓reduceIte]
    rfl
  · have room : keyword < b.length := by omega
    have longer (more : List UInt8) : ¬(b ++ more).length < keyword + 1 := by
      rw [List.length_append]
      omega
    by_cases cr : b[keyword] = CR
    · by_cases second : b.length < keyword + 2
      · refine ⟨⟨protoAgain, { m with type := type }, b⟩, .again ?_⟩
        simp only [parseBare, ofList_len, ofList_data, first, load_inside room, bind, Except.bind,
          cr, ne_eq, not_true_eq_false, second, ↓reduceIte]
        rfl
      · have room₂ : keyword + 1 < b.length := by omega
        have longer₂ (more : List UInt8) : ¬(b ++ more).length < keyword + 2 := by
          rw [List.length_append]
          omega
        by_cases lf : b[keyword + 1] = LF
        · have run (more : List UInt8) : parseBare keyword type (.ofList (b ++ more)) m =
              .ok ⟨keyword + 2, { m with type := type }, b ++ more⟩ := by
            simp only [parseBare, ofList_len, ofList_data, if_neg (longer more),
              load_append_inside more room, bind, Except.bind, cr, if_neg (longer₂ more),
              load_append_inside more room₂, lf]
            rfl
          refine ⟨⟨keyword + 2, { m with type := type }, b⟩, by simpa using run [], fun _ => run,
            fun absurd => ?_, fun _ => ⟨rfl, ?_, ?_⟩⟩
          · simp only at absurd
            omega
          · rw [List.getElem?_eq_getElem room, cr]
          · rw [List.getElem?_eq_getElem room₂, lf]
        · refine ⟨⟨protoErrInvalidMsg, { m with type := type }, b⟩,
            .error (by decide) fun more => ?_⟩
          simp only [parseBare, ofList_len, ofList_data, if_neg (longer more),
            load_append_inside more room, bind, Except.bind, cr, if_neg (longer₂ more),
            load_append_inside more room₂, ne_eq, lf, not_true_eq_false, if_false,
            not_false_eq_true, if_true]
          rfl
    · refine ⟨⟨protoErrInvalidMsg, { m with type := type }, b⟩, .error (by decide) fun more => ?_⟩
      simp only [parseBare, ofList_len, ofList_data, if_neg (longer more),
        load_append_inside more room, bind, Except.bind, ne_eq, cr, not_false_eq_true, if_true]
      rfl

/-- A result in a small buffer is its own signed word. -/
theorem signed_of_small {value : Nat} (small : value < 2 ^ 63) :
    Word.signed value = value := Word.signed_of_bounds (by omega) (by omega)

/-- An accepted text from `n` on: it ends at the first CR after its first byte, which a line feed
follows, and a terminator is written over that CR. -/
structure TextFrame (n : Nat) (b : List UInt8) (m : Msg) (parsed : Parsed) : Prop where
  after : n < parsed.msg.bend
  result : parsed =
    ⟨parsed.msg.bend + 2, { m with bstart := n, bend := parsed.msg.bend }, b.set parsed.msg.bend 0⟩
  cr : b[parsed.msg.bend]? = some CR
  lf : b[parsed.msg.bend + 1]? = some LF
  first : ∀ i, n < i → i < parsed.msg.bend → b[i]? ≠ some CR

/-- A scan with a bound inside a byte list, with what it says on every longer buffer. -/
theorem scan_list (keep : UInt8 → Bool) (b : List UInt8) (n bound : Nat) (start : n ≤ bound)
    (inside : bound ≤ b.length) :
    ∃ stop, n ≤ stop ∧ stop ≤ bound ∧ scan keep b (bound - n) n = .ok stop ∧
      (∀ i (inside : i < b.length), n ≤ i → i < stop → keep b[i] = true) ∧
      (∀ inside : stop < b.length, stop < bound → keep b[stop] = false ∧
        ∀ (more : List UInt8) (later : Nat), bound ≤ later →
          scan keep (b ++ more) (later - n) n = .ok stop) := by
  obtain ⟨stop, run⟩ := scan_total keep b (bound - n) n (by omega)
  obtain ⟨lower, upper, passed, ended⟩ := scan_spec run
  refine ⟨stop, lower, by omega, run, fun i inside low high => ?_,
    fun inside before => ⟨?_, fun more later less => ?_⟩⟩
  · obtain ⟨c, read, kept⟩ := passed i low high
    rw [List.getElem?_eq_getElem inside, Option.some.injEq] at read
    rw [read]
    exact kept
  · obtain ⟨c, read, dropped⟩ := ended (by omega)
    rw [List.getElem?_eq_getElem inside, Option.some.injEq] at read
    rw [read]
    exact dropped
  · have longer := scan_extend (later - bound) (scan_append more run) (by omega)
    rw [show later - n = bound - n + (later - bound) by omega]
    exact longer

/-- Appending bytes does not make a buffer shorter. -/
theorem length_le_append (b more : List UInt8) : b.length ≤ (b ++ more).length := by simp

/-- What the parser of a text does from the first byte `n` of the text on. -/
theorem parseText_outcome {b : List UInt8} (small : b.length < 2 ^ 63) {n : Nat}
    (inside : n < b.length) (m : Msg) :
    ∃ parsed, Outcome (fun bytes => parseText n bytes m) b parsed (TextFrame n b m) := by
  obtain ⟨stop, lower, upper, run, passed, ended⟩ :=
    scan_list (· ≠ CR) b (n + 1) b.length (by omega) (Nat.le_refl _)
  by_cases last : b.length - 1 ≤ stop
  · refine ⟨⟨protoAgain, { m with bstart := n }, b⟩, .again ?_⟩
    simp only [parseText, ofList_len, ofList_data, run, bind, Except.bind, last, ↓reduceIte]
    rfl
  · have room : stop < b.length := by omega
    have room₂ : stop + 1 < b.length := by omega
    obtain ⟨cr, longer⟩ := ended room room
    have longer (more : List UInt8) := longer more _ (length_le_append b more)
    have cr : b[stop] = CR := by simpa using cr
    have farther (more : List UInt8) : ¬(b ++ more).length - 1 ≤ stop := by
      rw [List.length_append]
      omega
    by_cases lf : b[stop + 1] = LF
    · have step (more : List UInt8) : parseText n (.ofList (b ++ more)) m =
          .ok ⟨stop + 2, { m with bstart := n, bend := stop }, b.set stop 0 ++ more⟩ := by
        have written : store (b ++ more) stop 0 = .ok (b.set stop 0 ++ more) :=
          store_append more (store_inside 0 room)
        have rc : Word.signed ((stop : Int) + 2) = stop + 2 := by
          exact_mod_cast signed_of_small (show stop + 2 < 2 ^ 63 by omega)
        simp only [parseText, ofList_len, ofList_data, longer more, bind, Except.bind,
          if_neg (farther more), load_append_inside more room₂, lf, written, rc]
        rfl
      refine ⟨⟨stop + 2, { m with bstart := n, bend := stop }, b.set stop 0⟩,
        by simpa using step [], fun _ => step, fun absurd => ?_, fun _ => ?_⟩
      · simp only at absurd
        omega
      · refine ⟨by simp only; omega, rfl, ?_, ?_, fun i low high absurd => ?_⟩
        · rw [List.getElem?_eq_getElem room, cr]
        · rw [List.getElem?_eq_getElem room₂, lf]
        · have kept := passed i (by simp only at high; omega) (by omega) high
          rw [List.getElem?_eq_getElem (by simp only at high; omega), Option.some.injEq] at absurd
          rw [absurd] at kept
          simp at kept
    · refine ⟨⟨protoErrInvalidMsg, { m with bstart := n }, b⟩, .error (by decide) fun more => ?_⟩
      simp only [parseText, ofList_len, ofList_data, longer more, bind, Except.bind,
        if_neg (farther more), load_append_inside more room₂, ne_eq, lf, not_false_eq_true, if_true]
      rfl

/-- An accepted `-ERR` without a text: CRLF right after the keyword. -/
structure EmptyFrame (headerLen : Nat) (b : List UInt8) (m : Msg) (parsed : Parsed) : Prop where
  result : parsed =
    ⟨headerLen + 2, { m with bstart := headerLen, bend := headerLen }, b.set headerLen 0⟩
  cr : b[headerLen]? = some CR
  lf : b[headerLen + 1]? = some LF

/-- An accepted `-ERR`: without a text, or with one after at least one space. -/
def ErrFrame (headerLen : Nat) (b : List UInt8) (m : Msg) (parsed : Parsed) : Prop :=
  EmptyFrame headerLen b { m with type := .err } parsed ∨
    ∃ n, headerLen < n ∧ TextFrame n b { m with type := .err } parsed

/-- An accepted `INFO`: a text after at least one space. -/
def InfoFrame (headerLen : Nat) (b : List UInt8) (m : Msg) (parsed : Parsed) : Prop :=
  ∃ n, headerLen < n ∧ TextFrame n b { m with type := .info } parsed

/-- What the parser of `-ERR` does. -/
theorem parseErr_outcome {b : List UInt8} (small : b.length < 2 ^ 63) {headerLen : Nat}
    (inside : headerLen < b.length) (m : Msg) :
    ∃ parsed, Outcome (fun bytes => parseErr bytes headerLen m) b parsed
      (ErrFrame headerLen b m) := by
  obtain ⟨n, lower, upper, run, passed, ended⟩ := scan_list (· = SP) b headerLen b.length
    (by omega) (Nat.le_refl _)
  by_cases last : b.length ≤ n
  · refine ⟨⟨protoAgain, { m with type := .err }, b⟩, .again ?_⟩
    simp only [parseErr, ofList_len, ofList_data, run, bind, Except.bind, last, ↓reduceIte]
    rfl
  · have room : n < b.length := by omega
    obtain ⟨-, longer⟩ := ended room room
    have longer (more : List UInt8) := longer more _ (length_le_append b more)
    have farther (more : List UInt8) : ¬(b ++ more).length ≤ n := by
      rw [List.length_append]
      omega
    by_cases bare : n = headerLen
    · subst bare
      by_cases cr : b[n] = CR
      · by_cases second : n = b.length - 1
        · refine ⟨⟨protoAgain, { m with type := .err }, b⟩, .again ?_⟩
          simp only [parseErr, ofList_len, ofList_data, run, bind, Except.bind, last,
            load_inside room, cr, ne_eq, not_true_eq_false, ← second, ↓reduceIte]
          rfl
        · have room₂ : n + 1 < b.length := by omega
          have farther₂ (more : List UInt8) : ¬n = (b ++ more).length - 1 := by
            rw [List.length_append]
            omega
          by_cases lf : b[n + 1] = LF
          · have step (more : List UInt8) : parseErr (.ofList (b ++ more)) n m =
                .ok ⟨n + 2, { m with type := .err, bstart := n, bend := n },
                  b.set n 0 ++ more⟩ := by
              have written : store (b ++ more) n 0 = .ok (b.set n 0 ++ more) :=
                store_append more (store_inside 0 room)
              have rc : Word.signed ((n : Int) + 2) = n + 2 := by
                exact_mod_cast signed_of_small (show n + 2 < 2 ^ 63 by omega)
              simp only [parseErr, ofList_len, ofList_data, longer more, bind, Except.bind,
                farther more, load_append_inside more room, cr, ne_eq, not_true_eq_false,
                farther₂ more, load_append_inside more room₂, lf, written, rc, ↓reduceIte]
              rfl
            refine ⟨⟨n + 2, { m with type := .err, bstart := n, bend := n }, b.set n 0⟩,
              by simpa using step [], fun _ => step, fun absurd => ?_, fun _ => .inl ⟨rfl, ?_, ?_⟩⟩
            · simp only at absurd
              omega
            · rw [List.getElem?_eq_getElem room, cr]
            · rw [List.getElem?_eq_getElem room₂, lf]
          · refine ⟨⟨protoErrInvalidMsg, { m with type := .err }, b⟩,
              .error (by decide) fun more => ?_⟩
            simp only [parseErr, ofList_len, ofList_data, longer more, bind, Except.bind,
              farther more, load_append_inside more room, cr, ne_eq, not_true_eq_false,
              farther₂ more, load_append_inside more room₂, lf, not_false_eq_true, ↓reduceIte]
            rfl
      · refine ⟨⟨protoErrInvalidMsg, { m with type := .err }, b⟩, .error (by decide) fun more => ?_⟩
        simp only [parseErr, ofList_len, ofList_data, longer more, bind, Except.bind, farther more,
          load_append_inside more room, cr, ne_eq, not_false_eq_true, ↓reduceIte]
        rfl
    · obtain ⟨parsed, outcome⟩ := parseText_outcome small room { m with type := .err }
      refine ⟨parsed, (outcome.congr fun more => ?_).weaken fun text => .inr ⟨n, by omega, text⟩⟩
      simp only [parseErr, ofList_len, ofList_data, longer more, bind, Except.bind, farther more,
        bare, ↓reduceIte]

/-- What the parser of `INFO` does. -/
theorem parseInfoLine_outcome {b : List UInt8} (small : b.length < 2 ^ 63) {headerLen : Nat}
    (inside : headerLen < b.length) (m : Msg) :
    ∃ parsed, Outcome (fun bytes => parseInfoLine bytes headerLen m) b parsed
      (InfoFrame headerLen b m) := by
  obtain ⟨n, lower, upper, run, passed, ended⟩ := scan_list (· = SP) b headerLen b.length
    (by omega) (Nat.le_refl _)
  by_cases last : b.length ≤ n
  · refine ⟨⟨protoAgain, { m with type := .info }, b⟩, .again ?_⟩
    simp only [parseInfoLine, ofList_len, ofList_data, run, bind, Except.bind, last, ↓reduceIte]
    rfl
  · have room : n < b.length := by omega
    obtain ⟨-, longer⟩ := ended room room
    have longer (more : List UInt8) := longer more _ (length_le_append b more)
    have farther (more : List UInt8) : ¬(b ++ more).length ≤ n := by
      rw [List.length_append]
      omega
    by_cases bare : n = headerLen
    · subst bare
      refine ⟨⟨protoErrInvalidMsg, { m with type := .info }, b⟩, .error (by decide) fun more => ?_⟩
      simp only [parseInfoLine, ofList_len, ofList_data, longer more, bind, Except.bind,
        farther more, ↓reduceIte]
      rfl
    · obtain ⟨parsed, outcome⟩ := parseText_outcome small room { m with type := .info }
      refine ⟨parsed, (outcome.congr fun more => ?_).weaken fun text => ⟨n, by omega, text⟩⟩
      simp only [parseInfoLine, ofList_len, ofList_data, longer more, bind, Except.bind,
        farther more, bare, ↓reduceIte]

end NgxNats
