import NgxNats.Model.Reader
import NgxNats.Verif.Soundness

/-!
# Bytes behind the given length

The reader hands the parser a pointer into its buffer: behind the received bytes there is more
memory. A parser that stays inside the given length returns the same there, and leaves the memory
behind it alone. What it accepts does not depend on it, and the bytes behind an accepted frame are
those that were received.
-/
namespace NgxNats

/-- Whatever the first computation returns, the second one returns its image. -/
def Carries {α β : Type} (image : α → β) (first : Except Fault α) (second : Except Fault β) :
    Prop :=
  ∀ value, first = .ok value → second = .ok (image value)

section Carries

variable {α β γ δ : Type} {image : α → β} {image' : γ → δ}

/-- A value that is returned is carried over. -/
theorem Carries.pure (value : α) :
    Carries image (Pure.pure value : Except Fault α) (Pure.pure (image value)) := by
  intro result done
  cases done
  rfl

/-- What follows is carried over where the values it starts from are. -/
theorem Carries.bind {first : Except Fault α} {second : Except Fault β}
    {next : α → Except Fault γ} {next' : β → Except Fault δ} (head : Carries image first second)
    (tail : ∀ value, Carries image' (next value) (next' (image value))) :
    Carries image' (first >>= next) (second >>= next') := by
  intro result done
  obtain ⟨value, returned, done⟩ := except_bind_ok.mp done
  exact except_bind_ok.mpr ⟨image value, head value returned, tail value result done⟩

/-- A choice that both computations make alike. -/
theorem Carries.ite {condition : Prop} [Decidable condition] {yes no : Except Fault α}
    {yes' no' : Except Fault β} (first : condition → Carries image yes yes')
    (second : ¬condition → Carries image no no') :
    Carries image (if condition then yes else no) (if condition then yes' else no') := by
  split
  · next met => exact first met
  · next failed => exact second failed

end Carries

section Parser

variable {data more : List UInt8}

/-- A byte that is there is read from the longer memory too. -/
theorem load_carries (index : Nat) : Carries id (load data index) (load (data ++ more) index) :=
  fun _ read => load_append more read

/-- A byte is stored into the longer memory at the same place. -/
theorem store_carries (index : Nat) (c : UInt8) :
    Carries (· ++ more) (store data index c) (store (data ++ more) index c) :=
  fun _ written => store_append more written

/-- A scan that ends inside ends at the same place in the longer memory. -/
theorem scan_carries (keep : UInt8 → Bool) (left n : Nat) :
    Carries id (scan keep data left n) (scan keep (data ++ more) left n) :=
  fun _ run => scan_append more run

/-- A token of the line is found in the longer memory too. -/
theorem natsToken_carries (pos max : Nat) :
    Carries id (natsToken data pos max) (natsToken (data ++ more) pos max) :=
  fun _ run => natsToken_append more run

/-- A number is read from the longer memory as well. -/
theorem natsAtoi_carries (s n : Nat) :
    Carries id (natsAtoi data s n) (natsAtoi (data ++ more) s n) :=
  fun _ run => natsAtoi_append more run

/-- The last token of a MSG header is read from the longer memory as well. -/
theorem parseMsgLast_carries (n max : Nat) :
    Carries id (parseMsgLast data n max) (parseMsgLast (data ++ more) n max) := by
  refine Carries.bind (natsToken_carries _ _) fun third => ?_
  simp only [id]
  cases third.next with
  | none => exact Carries.pure _
  | some n =>
    dsimp only
    refine Carries.ite (fun _ => Carries.pure _) fun _ => ?_
    refine Carries.ite (fun _ => ?_) fun _ => Carries.pure _
    refine Carries.bind (natsToken_carries _ _) fun fourth => ?_
    simp only [id]
    cases fourth.next with
    | none => exact Carries.pure _
    | some n =>
      dsimp only
      refine Carries.bind (natsToken_carries _ _) fun fifth => ?_
      simp only [id]
      cases fifth.next with
      | none => exact Carries.pure _
      | some n =>
        dsimp only
        refine Carries.ite (fun _ => Carries.pure _) fun _ => ?_
        exact Carries.ite (fun _ => Carries.pure _) fun _ => Carries.pure _

/-- A MSG header is read from the longer memory as well. -/
theorem parseMsgHeader_carries (headerLen max : Nat) (m : Msg) :
    Carries id (parseMsgHeader data headerLen max m)
      (parseMsgHeader (data ++ more) headerLen max m) := by
  refine Carries.bind (natsToken_carries _ _) fun subject => ?_
  simp only [id]
  cases subject.next with
  | none => exact Carries.pure _
  | some n =>
    dsimp only
    refine Carries.ite (fun _ => Carries.pure _) fun _ => ?_
    refine Carries.bind (natsToken_carries _ _) fun sid => ?_
    simp only [id]
    cases sid.next with
    | none => exact Carries.pure _
    | some n =>
      dsimp only
      refine Carries.ite (fun _ => Carries.pure _) fun _ => ?_
      refine Carries.bind (natsAtoi_carries _ _) fun value => ?_
      simp only [id]
      cases value with
      | none => exact Carries.pure _
      | some value =>
        dsimp only
        refine Carries.bind (parseMsgLast_carries _ _) fun last => ?_
        simp only [id]
        cases last with
        | none => exact Carries.pure _
        | some last =>
          dsimp only
          refine Carries.bind (natsAtoi_carries _ _) fun value => ?_
          simp only [id]
          cases value with
          | none => exact Carries.pure _
          | some value => exact Carries.pure _

variable {len : Nat}

/-- The result of a parser on the longer memory. -/
abbrev Behind (more : List UInt8) (parser : Str → Except Fault Parsed) (data : List UInt8)
    (len : Nat) : Prop :=
  Carries (·.extend more) (parser ⟨data, len⟩) (parser ⟨data ++ more, len⟩)

/-- A parser's answer with the memory it leaves. -/
theorem answer_carries (rc : Int) (m : Msg) : Carries (·.extend more)
    (Pure.pure ⟨rc, m, data⟩ : Except Fault Parsed) (Pure.pure ⟨rc, m, data ++ more⟩) :=
  Carries.pure _

/-- A keyword line without a text is accepted with any bytes behind it. -/
theorem parseBare_behind (keyword : Nat) (type : MsgType) (m : Msg) :
    Behind more (parseBare keyword type · m) data len := by
  refine Carries.ite (fun _ => answer_carries _ _) fun _ => ?_
  refine Carries.bind (load_carries _) fun c => ?_
  refine Carries.ite (fun _ => answer_carries _ _) fun _ => ?_
  refine Carries.ite (fun _ => answer_carries _ _) fun _ => ?_
  refine Carries.bind (load_carries _) fun c => ?_
  exact Carries.ite (fun _ => answer_carries _ _) fun _ => answer_carries _ _

/-- A text line is accepted with any bytes behind it. -/
theorem parseText_behind (n : Nat) (m : Msg) : Behind more (parseText n · m) data len := by
  refine Carries.bind (scan_carries _ _ _) fun n => ?_
  refine Carries.ite (fun _ => answer_carries _ _) fun _ => ?_
  refine Carries.bind (load_carries _) fun c => ?_
  refine Carries.ite (fun _ => answer_carries _ _) fun _ => ?_
  exact Carries.bind (store_carries _ _) fun _ => answer_carries _ _

/-- An error line is accepted with any bytes behind it. -/
theorem parseErr_behind (headerLen : Nat) (m : Msg) :
    Behind more (parseErr · headerLen m) data len := by
  refine Carries.bind (scan_carries _ _ _) fun n => ?_
  refine Carries.ite (fun _ => answer_carries _ _) fun _ => ?_
  refine Carries.ite (fun _ => ?_) fun _ => parseText_behind _ _
  refine Carries.bind (load_carries _) fun c => ?_
  refine Carries.ite (fun _ => answer_carries _ _) fun _ => ?_
  refine Carries.ite (fun _ => answer_carries _ _) fun _ => ?_
  refine Carries.bind (load_carries _) fun c => ?_
  refine Carries.ite (fun _ => answer_carries _ _) fun _ => ?_
  exact Carries.bind (store_carries _ _) fun _ => answer_carries _ _

/-- An INFO line is accepted with any bytes behind it. -/
theorem parseInfoLine_behind (headerLen : Nat) (m : Msg) :
    Behind more (parseInfoLine · headerLen m) data len := by
  refine Carries.bind (scan_carries _ _ _) fun n => ?_
  refine Carries.ite (fun _ => answer_carries _ _) fun _ => ?_
  exact Carries.ite (fun _ => answer_carries _ _) fun _ => parseText_behind _ _

/-- A payload and its CRLF are accepted with any bytes behind them. -/
theorem parseMsgPayload_behind (ns : Nat) (m : Msg) :
    Behind more (parseMsgPayload ns · m) data len := by
  refine Carries.ite (fun _ => answer_carries _ _) fun _ => ?_
  refine Carries.bind (load_carries _) fun c => ?_
  refine Carries.ite (fun _ => answer_carries _ _) fun _ => ?_
  refine Carries.bind (load_carries _) fun c => ?_
  refine Carries.ite (fun _ => answer_carries _ _) fun _ => ?_
  refine Carries.bind (store_carries _ _) fun stored => ?_
  refine Carries.ite (fun _ => ?_) fun _ => ?_
  · refine Carries.bind (store_carries _ _) fun stored => ?_
    exact Carries.bind (store_carries _ _) fun _ => answer_carries _ _
  · have kept : Carries (· ++ more) (Pure.pure stored) (Pure.pure (stored ++ more)) :=
      Carries.pure stored
    refine Carries.bind kept fun stored => ?_
    exact Carries.bind (store_carries _ _) fun _ => answer_carries _ _

/-- A MSG frame is accepted with any bytes behind it. -/
theorem parseMsg_behind (headerLen : Nat) (m : Msg) :
    Behind more (parseMsg · headerLen m) data len := by
  refine Carries.bind (load_carries _) fun c => ?_
  refine Carries.ite (fun _ => answer_carries _ _) fun _ => ?_
  refine Carries.bind (scan_carries _ _ _) fun n => ?_
  refine Carries.ite (fun _ => answer_carries _ _) fun _ => ?_
  refine Carries.bind (load_carries _) fun c => ?_
  refine Carries.ite (fun _ => answer_carries _ _) fun _ => ?_
  refine Carries.bind (parseMsgHeader_carries _ _ _) fun header => ?_
  simp only [id]
  cases header with
  | none => exact answer_carries _ _
  | some m => exact parseMsgPayload_behind _ _

/-- The parser on a longer memory. -/
theorem parse_behind (short : len ≤ data.length) : Behind more parse data len := by
  refine Carries.bind (scan_carries _ _ _) fun p => ?_
  refine Carries.ite (fun _ => answer_carries _ _) fun inside => ?_
  have same : (data ++ more).take p = data.take p :=
    List.take_append_of_le_length (by simp only at inside; omega)
  refine Carries.bind (load_carries _) fun c => ?_
  refine Carries.ite (fun _ => answer_carries _ _) fun _ => ?_
  simp only [id, parseKeyword, same]
  refine Carries.ite (fun _ => ?_) fun _ => ?_
  · refine Carries.ite (fun _ => parseBare_behind _ _ _) fun _ => ?_
    exact Carries.ite (fun _ => parseMsg_behind _ _) fun _ => answer_carries _ _
  · refine Carries.ite (fun _ => ?_) fun _ => answer_carries _ _
    refine Carries.ite (fun _ => parseErr_behind _ _) fun _ => ?_
    refine Carries.ite (fun _ => parseBare_behind _ _ _) fun _ => ?_
    refine Carries.ite (fun _ => parseBare_behind _ _ _) fun _ => ?_
    exact Carries.ite (fun _ => parseInfoLine_behind _ _) fun _ => answer_carries _ _

end Parser

section Frames

variable {b : List UInt8} {parsed : Parsed}

/-- An accepted frame lies inside the buffer, with its slices, and the bytes behind it are as they
were. -/
structure Consumed (b : List UInt8) (parsed : Parsed) : Prop where
  positive : 0 < parsed.rc
  inside : parsed.rc ≤ b.length
  rest : parsed.data.drop parsed.rc.toNat = b.drop parsed.rc.toNat
  length : parsed.data.length = b.length
  subject : parsed.msg.subject.stop ≤ b.length
  replyto : parsed.msg.replyto.stop ≤ b.length
  ordered : parsed.msg.bstart ≤ parsed.msg.bend
  body : parsed.msg.bend ≤ b.length

/-- An accepted keyword line. -/
theorem BareFrame.consumed {keyword : Nat} {type : MsgType}
    (frame : BareFrame keyword type b {} parsed) : Consumed b parsed := by
  obtain ⟨rfl, -, lf⟩ := frame
  have inside := (List.getElem?_eq_some_iff.mp lf).1
  have positive : (0 : Int) < keyword + 2 := by omega
  have room : ((keyword : Int) + 2) ≤ b.length := by omega
  exact ⟨positive, room, rfl, rfl, Nat.zero_le _, Nat.zero_le _, Nat.le_refl _, Nat.zero_le _⟩

/-- A terminator inside a frame does not change what is behind it. -/
theorem consumed_text {type : MsgType} {start stop : Nat} (ordered : start ≤ stop)
    (lf : b[stop + 1]? = some LF) : Consumed b
      ⟨stop + 2, { type := type, bstart := start, bend := stop }, b.set stop 0⟩ := by
  have inside := (List.getElem?_eq_some_iff.mp lf).1
  have count : ((stop : Int) + 2).toNat = stop + 2 := by omega
  constructor
  · show (0 : Int) < stop + 2
    omega
  · show (stop : Int) + 2 ≤ b.length
    omega
  · show (b.set stop 0).drop ((stop : Int) + 2).toNat = b.drop ((stop : Int) + 2).toNat
    rw [count, List.drop_set_of_lt (by omega)]
  · exact List.length_set
  · exact Nat.zero_le _
  · exact Nat.zero_le _
  · exact ordered
  · show stop ≤ b.length
    omega

/-- An accepted text. -/
theorem TextFrame.consumed {n : Nat} {type : MsgType}
    (frame : TextFrame n b { type := type } parsed) : Consumed b parsed := by
  obtain ⟨start, result, -, lf, -⟩ := frame
  rw [result]
  exact consumed_text (Nat.le_of_lt start) lf

/-- The terminators of a message do not change what is behind it. -/
theorem drop_terminated {m : Msg} {n : Nat} (subject : m.subject.start + m.subject.len < n)
    (replyto : 0 < m.replyto.len → m.replyto.start + m.replyto.len < n) (bend : m.bend < n) :
    (terminated m b).drop n = b.drop n := by
  unfold terminated
  rw [List.drop_set_of_lt bend]
  split
  · next answered => rw [List.drop_set_of_lt (replyto answered), List.drop_set_of_lt subject]
  · rw [List.drop_set_of_lt subject]

/-- An accepted message. -/
theorem MsgFrame.consumed {max : Nat} {tokens : MsgTokens}
    (frame : MsgFrame 3 b {} max tokens parsed) : Consumed b parsed := by
  obtain ⟨line, fits, inside, -, -, rfl⟩ := frame
  obtain ⟨_, _, subjectSid, _, sidLen, _, _, answerLen, _, lenStop⟩ := line.ordered
  have subject : tokens.subject.stop ≤ max := by
    simp only [Slice.stop] at *
    omega
  have replyto : (tokens.replyto.getD ⟨0, 0⟩).stop ≤ max := by
    cases given : tokens.replyto with
    | none => exact Nat.zero_le _
    | some slice =>
      have before := answerLen slice given
      simp only [Option.getD_some, Slice.stop] at *
      omega
  have count :
    ((max : Int) + 2 + tokens.lenValue b + 2).toNat = max + 2 + tokens.lenValue b + 2 := by
    omega
  constructor
  · show (0 : Int) < max + 2 + tokens.lenValue b + 2
    omega
  · show (max : Int) + 2 + tokens.lenValue b + 2 ≤ b.length
    omega
  · show (terminated _ b).drop ((max : Int) + 2 + tokens.lenValue b + 2).toNat = _
    rw [count]
    apply drop_terminated
    · show tokens.subject.stop < _
      omega
    · intro _
      show (tokens.replyto.getD ⟨0, 0⟩).stop < _
      omega
    · show max + 2 + tokens.lenValue b < _
      omega
  · exact length_terminated _ b
  · show tokens.subject.stop ≤ b.length
    omega
  · show (tokens.replyto.getD ⟨0, 0⟩).stop ≤ b.length
    omega
  · show max + 2 ≤ max + 2 + tokens.lenValue b
    omega
  · show max + 2 + tokens.lenValue b ≤ b.length
    omega

/-- Every accepted frame lies inside the buffer and leaves what is behind it alone. -/
theorem Frame.consumed (frame : Frame b parsed) : Consumed b parsed := by
  cases frame with
  | ok frame => exact frame.consumed
  | ping frame => exact frame.consumed
  | pong frame => exact frame.consumed
  | err frame =>
    rcases frame with empty | ⟨n, after, text⟩
    · obtain ⟨rfl, -, lf⟩ := empty
      exact consumed_text (Nat.le_refl 4) lf
    · exact text.consumed
  | info frame =>
    obtain ⟨n, after, text⟩ := frame
    exact text.consumed
  | msg max tokens keyword frame => exact frame.consumed

/-- The message of an accepted frame does not depend on what follows it. -/
theorem Consumed.serverMsg_extend (consumed : Consumed b parsed) (more : List UInt8) :
    serverMsg (parsed.extend more) = serverMsg parsed := by
  have length := consumed.length
  have subject : parsed.msg.subject.bytes (parsed.data ++ more) =
      parsed.msg.subject.bytes parsed.data :=
    Slice.bytes_append more (by rw [length]; exact consumed.subject)
  have replyto : parsed.msg.replyto.bytes (parsed.data ++ more) =
      parsed.msg.replyto.bytes parsed.data :=
    Slice.bytes_append more (by rw [length]; exact consumed.replyto)
  have size : parsed.msg.bstart + Word.unsigned ((parsed.msg.bend : Int) - parsed.msg.bstart) ≤
      parsed.data.length := by
    have ordered := consumed.ordered
    have body := consumed.body
    unfold Word.unsigned
    omega
  have body : Slice.bytes ⟨parsed.msg.bstart,
      Word.unsigned ((parsed.msg.bend : Int) - parsed.msg.bstart)⟩ (parsed.data ++ more) =
      Slice.bytes ⟨parsed.msg.bstart,
        Word.unsigned ((parsed.msg.bend : Int) - parsed.msg.bstart)⟩ parsed.data :=
    Slice.bytes_append more size
  unfold serverMsg Parsed.extend
  simp only [ServerMsg.mk.injEq, true_and]
  exact ⟨subject, replyto, body⟩

/-- The parser's outcome on received bytes in the reader's buffer. -/
theorem Outcome.behind (outcome : Outcome parse b parsed (Frame b)) (beyond : List UInt8) :
    parse ⟨b ++ beyond, b.length⟩ = .ok (parsed.extend beyond) :=
  parse_behind (Nat.le_refl _) parsed outcome.returns

end Frames

end NgxNats
