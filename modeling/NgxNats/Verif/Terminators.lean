import NgxNats.Verif.Beyond
import NgxNats.Verif.Decoding

/-!
# What parsing writes

The parser works in place: it ends each slice it returns with a zero byte. These bytes are all it
writes. Each of them lies inside the frame and outside every slice, also where a quoted token is
directly followed by the next one, because the byte after a slice belongs to a number that was read
before or to the end of a line.
-/
namespace NgxNats

/-- Memory with a zero byte at each of these positions. -/
def zeroed (positions : List Nat) (memory : List UInt8) : List UInt8 :=
  positions.foldl (fun memory i => memory.set i 0) memory

/-- The slice between `bstart` and `bend`. -/
def Msg.body (m : Msg) : Slice := ⟨m.bstart, m.bend - m.bstart⟩

/-- The slices of a message: a MSG has a subject, may have a reply-to, and has a body, which may be
empty; `-ERR` and `INFO` have a text. -/
def Msg.slices (m : Msg) : List Slice :=
  match m.type with
  | .msg => m.subject :: (if 0 < m.replyto.len then [m.replyto] else []) ++ [m.body]
  | .err | .info => [m.body]
  | .unset | .ok | .ping | .pong => []

/-- What an accepted frame leaves of the memory it was parsed from: what is behind the frame is
unchanged, so are the slices, each of them is followed by a zero byte inside the frame, and nothing
else was written. -/
structure Terminated (memory : List UInt8) (parsed : Parsed) : Prop where
  behind : ∀ i : Nat, parsed.rc ≤ i → parsed.data[i]? = memory[i]?
  kept : ∀ slice ∈ parsed.msg.slices, slice.bytes parsed.data = slice.bytes memory
  ended : ∀ slice ∈ parsed.msg.slices,
    slice.stop < parsed.rc ∧ parsed.data[slice.stop]? = some 0
  only : ∀ i, parsed.data[i]? ≠ memory[i]? → ∃ slice ∈ parsed.msg.slices, i = slice.stop

variable {b memory : List UInt8} {parsed : Parsed}

/-- Zero bytes inside a memory are written there whatever follows it. -/
theorem zeroed_append {positions : List Nat} (inside : ∀ i ∈ positions, i < memory.length)
    (more : List UInt8) : zeroed positions (memory ++ more) = zeroed positions memory ++ more := by
  induction positions generalizing memory with
  | nil => rfl
  | cons i rest ih =>
    have here : i < memory.length := inside i List.mem_cons_self
    have later : ∀ other ∈ rest, other < (memory.set i 0).length := by
      intro other among
      rw [List.length_set]
      exact inside other (List.mem_cons_of_mem i among)
    show zeroed rest ((memory ++ more).set i 0) = zeroed rest (memory.set i 0) ++ more
    rw [List.set_append_left _ _ here]
    exact ih later

/-- A position that is not written is unchanged. -/
theorem zeroed_other {positions : List Nat} {i : Nat} (other : i ∉ positions) :
    (zeroed positions memory)[i]? = memory[i]? := by
  induction positions generalizing memory with
  | nil => rfl
  | cons first rest ih =>
    rw [List.mem_cons, not_or] at other
    exact (ih other.2).trans (List.getElem?_set_ne (Ne.symm other.1))

/-- A written position holds zero. -/
theorem zeroed_written {positions : List Nat} {i : Nat} (written : i ∈ positions)
    (inside : i < memory.length) : (zeroed positions memory)[i]? = some 0 := by
  induction positions generalizing memory with
  | nil => cases written
  | cons first rest ih =>
    show (zeroed rest (memory.set first 0))[i]? = some 0
    by_cases later : i ∈ rest
    · exact ih later (by rwa [List.length_set])
    · have here : first = i := ((List.mem_cons.mp written).resolve_right later).symm
      rw [zeroed_other later, here, List.getElem?_set_self inside]

/-- A slice that no written position lies in is unchanged. -/
theorem Slice.bytes_zeroed {slice : Slice} {positions : List Nat}
    (avoids : ∀ i ∈ positions, slice.Avoids i) :
    slice.bytes (zeroed positions memory) = slice.bytes memory := by
  induction positions generalizing memory with
  | nil => rfl
  | cons i rest ih =>
    exact (ih fun other among => avoids other (List.mem_cons_of_mem i among)).trans
      (Slice.bytes_set 0 (avoids i List.mem_cons_self))

/-- An accepted frame writes a zero byte behind each of its slices, inside the frame and outside the
slices. -/
structure Terminates (memory : List UInt8) (parsed : Parsed) : Prop where
  data : parsed.data = zeroed (parsed.msg.slices.map Slice.stop) memory
  inside : ∀ slice ∈ parsed.msg.slices, slice.stop < parsed.rc
  avoids : ∀ slice ∈ parsed.msg.slices, ∀ other ∈ parsed.msg.slices, slice.Avoids other.stop
  whole : parsed.rc ≤ memory.length

/-- What such a frame leaves of the memory. -/
theorem Terminates.terminated (terminates : Terminates memory parsed) :
    Terminated memory parsed := by
  obtain ⟨data, inside, avoids, whole⟩ := terminates
  have only : ∀ i, i ∉ parsed.msg.slices.map Slice.stop → parsed.data[i]? = memory[i]? := by
    intro i other
    rw [data, zeroed_other other]
  constructor
  · intro i late
    apply only
    intro written
    obtain ⟨slice, among, rfl⟩ := List.mem_map.mp written
    have before := inside slice among
    omega
  · intro slice among
    rw [data]
    apply Slice.bytes_zeroed
    intro i written
    obtain ⟨other, amongOther, rfl⟩ := List.mem_map.mp written
    exact avoids slice among other amongOther
  · intro slice among
    have before := inside slice among
    refine ⟨before, ?_⟩
    rw [data]
    exact zeroed_written (List.mem_map_of_mem among) (by omega)
  · intro i changed
    by_contra none
    apply changed
    apply only
    intro written
    obtain ⟨slice, among, same⟩ := List.mem_map.mp written
    exact none ⟨slice, among, same.symm⟩

/-- What an accepted frame writes does not depend on the memory behind it. -/
theorem Terminates.extend (terminates : Terminates memory parsed) (more : List UInt8) :
    Terminates (memory ++ more) (parsed.extend more) := by
  obtain ⟨data, inside, avoids, whole⟩ := terminates
  have within : ∀ i ∈ parsed.msg.slices.map Slice.stop, i < memory.length := by
    intro i written
    obtain ⟨slice, among, rfl⟩ := List.mem_map.mp written
    have before := inside slice among
    omega
  refine ⟨?_, inside, avoids, ?_⟩
  · show parsed.data ++ more = _
    rw [data]
    exact (zeroed_append within more).symm
  · show parsed.rc ≤ (memory ++ more).length
    rw [List.length_append]
    omega

/-- An accepted keyword line is not written to. -/
theorem BareFrame.terminates {keyword : Nat} {type : MsgType}
    (plain : type = .ok ∨ type = .ping ∨ type = .pong)
    (frame : BareFrame keyword type b {} parsed) : Terminates b parsed := by
  obtain ⟨rfl, -, lf⟩ := frame
  have room := (List.getElem?_eq_some_iff.mp lf).1
  have none : Msg.slices { type := type } = [] := by
    rcases plain with rfl | rfl | rfl
    · rfl
    · rfl
    · rfl
  constructor
  · show b = zeroed ((Msg.slices { type := type }).map Slice.stop) b
    rw [none]
    rfl
  · show ∀ slice ∈ Msg.slices { type := type }, _
    rw [none]
    exact List.forall_mem_nil _
  · show ∀ slice ∈ Msg.slices { type := type }, _
    rw [none]
    exact List.forall_mem_nil _
  · show (keyword : Int) + 2 ≤ b.length
    omega

/-- The terminator of a text is written behind it. -/
theorem terminates_text {type : MsgType} (text : type = .err ∨ type = .info) {start stop : Nat}
    (ordered : start ≤ stop) (lf : b[stop + 1]? = some LF) : Terminates b
      ⟨stop + 2, { type := type, bstart := start, bend := stop }, b.set stop 0⟩ := by
  have room := (List.getElem?_eq_some_iff.mp lf).1
  have one : Msg.slices { type := type, bstart := start, bend := stop } =
      [⟨start, stop - start⟩] := by
    rcases text with rfl | rfl
    · rfl
    · rfl
  have last : Slice.stop ⟨start, stop - start⟩ = stop := Nat.add_sub_of_le ordered
  constructor
  · show b.set stop 0 = zeroed ((Msg.slices { type := type, bstart := start, bend := stop }).map
      Slice.stop) b
    rw [one, List.map_singleton, last]
    rfl
  · show ∀ slice ∈ Msg.slices { type := type, bstart := start, bend := stop },
      (slice.stop : Int) < stop + 2
    rw [one, List.forall_mem_singleton, last]
    omega
  · show ∀ slice ∈ Msg.slices { type := type, bstart := start, bend := stop },
      ∀ other ∈ Msg.slices { type := type, bstart := start, bend := stop },
        slice.Avoids other.stop
    rw [one, List.forall_mem_singleton, List.forall_mem_singleton]
    exact .inr (Nat.le_refl _)
  · show (stop : Int) + 2 ≤ b.length
    omega

/-- An accepted text. -/
theorem TextFrame.terminates {n : Nat} {type : MsgType} (text : type = .err ∨ type = .info)
    (frame : TextFrame n b { type := type } parsed) : Terminates b parsed := by
  obtain ⟨after, result, -, lf, -⟩ := frame
  rw [result]
  exact terminates_text text (Nat.le_of_lt after) lf

/-- Slices with a byte between each of them and the next one avoid each other's terminators. -/
theorem avoids_of_apart {slices : List Slice}
    (apart : slices.Pairwise fun slice later => slice.stop < later.start) :
    ∀ slice ∈ slices, ∀ other ∈ slices, slice.Avoids other.stop := by
  induction apart with
  | nil => exact List.forall_mem_nil _
  | @cons first rest before _ ih =>
    intro slice among other amongOther
    rcases List.mem_cons.mp among with same | among
    · subst same
      rcases List.mem_cons.mp amongOther with rfl | amongOther
      · exact .inr (Nat.le_refl _)
      · have later := before other amongOther
        right
        unfold Slice.stop at later ⊢
        omega
    · rcases List.mem_cons.mp amongOther with first | amongOther
      · exact .inl (first ▸ before slice among)
      · exact ih slice among other amongOther

/-- The slices of an accepted MSG lie apart: between the subject and the reply-to stands the sid,
and between the reply-to and the body the length. -/
theorem MsgFrame.apart {max : Nat} {tokens : MsgTokens}
    (frame : MsgFrame 3 b {} max tokens parsed) :
    parsed.msg.slices.Pairwise (fun slice later => slice.stop < later.start) := by
  obtain ⟨line, -, -, -, -, rfl⟩ := frame
  obtain ⟨_, _, subjectSid, sidSome, sidLen, sidReplyto, _, replytoLen, _, lenStop⟩ := line.ordered
  have sid : tokens.sid.stop = tokens.sid.start + tokens.sid.len := rfl
  have len : tokens.len.stop = tokens.len.start + tokens.len.len := rfl
  have subjectBody : tokens.subject.stop < max + 2 := by omega
  show List.Pairwise _ (tokens.subject ::
    (if 0 < (tokens.replyto.getD ⟨0, 0⟩).len then [tokens.replyto.getD ⟨0, 0⟩] else []) ++
      [(tokens.accepted b max {}).body])
  cases given : tokens.replyto with
  | none =>
    apply List.pairwise_pair.mpr
    exact subjectBody
  | some answer =>
    have subjectAnswer : tokens.subject.stop < answer.start := by
      have behind := sidReplyto answer given
      omega
    have answerBody : answer.stop < max + 2 := by
      have before := replytoLen answer given
      omega
    rw [Option.getD_some]
    split
    · refine List.pairwise_cons.mpr ⟨?_, List.pairwise_pair.mpr answerBody⟩
      intro later among
      rcases List.mem_cons.mp among with rfl | among
      · exact subjectAnswer
      · exact List.mem_singleton.mp among ▸ subjectBody
    · apply List.pairwise_pair.mpr
      exact subjectBody

/-- An accepted MSG writes the terminators of its slices. -/
theorem MsgFrame.terminates {max : Nat} {tokens : MsgTokens}
    (frame : MsgFrame 3 b {} max tokens parsed) : Terminates b parsed := by
  have avoids := avoids_of_apart frame.apart
  have consumed := frame.consumed
  obtain ⟨line, -, inside, -, -, rfl⟩ := frame
  obtain ⟨_, _, subjectSid, sidSome, sidLen, _, _, replytoLen, _, lenStop⟩ := line.ordered
  have sid : tokens.sid.stop = tokens.sid.start + tokens.sid.len := rfl
  have len : tokens.len.stop = tokens.len.start + tokens.len.len := rfl
  have bodyStop : (tokens.accepted b max {}).body.stop = max + 2 + tokens.lenValue b := by
    show max + 2 + (max + 2 + tokens.lenValue b - (max + 2)) = _
    omega
  have slices : (tokens.accepted b max {}).slices = tokens.subject ::
      (if 0 < (tokens.replyto.getD ⟨0, 0⟩).len then [tokens.replyto.getD ⟨0, 0⟩] else []) ++
        [(tokens.accepted b max {}).body] := rfl
  refine ⟨?_, ?_, avoids, consumed.inside⟩
  · show terminated (tokens.accepted b max {}) b =
      zeroed ((tokens.accepted b max {}).slices.map Slice.stop) b
    unfold terminated
    show (if 0 < (tokens.replyto.getD ⟨0, 0⟩).len then _ else _ : List UInt8).set
      (max + 2 + tokens.lenValue b) 0 = _
    rw [slices]
    split
    · rw [← bodyStop]
      rfl
    · rw [← bodyStop]
      rfl
  · show ∀ slice ∈ (tokens.accepted b max {}).slices,
      (slice.stop : Int) < max + 2 + tokens.lenValue b + 2
    rw [slices]
    intro slice among
    rcases List.mem_append.mp among with early | late
    · rcases List.mem_cons.mp early with rfl | answer
      · omega
      · split at answer
        · cases given : tokens.replyto with
          | none =>
            rw [given] at answer
            rw [List.mem_singleton.mp answer]
            show ((0 + 0 : Nat) : Int) < _
            omega
          | some found =>
            rw [given] at answer
            have before := replytoLen found given
            rw [List.mem_singleton.mp answer, Option.getD_some]
            omega
        · cases answer
    · rw [List.mem_singleton.mp late, bodyStop]
      omega

/-- Every accepted frame writes the terminators of its slices and nothing else. -/
theorem Frame.terminates (frame : Frame b parsed) : Terminates b parsed := by
  cases frame with
  | ok frame => exact frame.terminates (.inl rfl)
  | ping frame => exact frame.terminates (.inr (.inl rfl))
  | pong frame => exact frame.terminates (.inr (.inr rfl))
  | err frame =>
    rcases frame with empty | ⟨n, -, text⟩
    · obtain ⟨rfl, -, lf⟩ := empty
      exact terminates_text (.inl rfl) (Nat.le_refl 4) lf
    · exact text.terminates (.inl rfl)
  | info frame =>
    obtain ⟨n, -, text⟩ := frame
    exact text.terminates (.inr rfl)
  | msg max tokens keyword frame => exact frame.terminates

/-- Parsing leaves everything but its terminators alone. On every buffer whose MSG length, if
there is one, fits an `ngx_int_t`, with any memory behind it: the parser returns; unless it accepts
a frame it writes nothing; and of an accepted frame it writes the terminators only. -/
theorem parse_terminators (b beyond : List UInt8) (small : b.length + 1 < 2 ^ 63)
    (fits : ∀ max tokens, FrameLine b max tokens → tokens.lenValue b < 2 ^ 63) :
    ∃ parsed, parse ⟨b ++ beyond, b.length⟩ = .ok parsed ∧
      (parsed.rc ≤ 0 → parsed.data = b ++ beyond) ∧
      (0 < parsed.rc → parsed.rc ≤ b.length ∧ Terminated (b ++ beyond) parsed) := by
  have lengths : ∀ max tokens, FrameLine b max tokens → LenFits max (tokens.lenValue b) := by
    intro max tokens frame
    have value := fits max tokens frame
    have inside := frame.line.inside
    exact ⟨value, by omega⟩
  obtain ⟨parsed, outcome⟩ := parse_outcome (Nat.lt_of_succ_lt small) lengths
  refine ⟨parsed.extend beyond, outcome.behind beyond, fun refused => ?_, fun accepted => ?_⟩
  · have negative : parsed.rc < 0 := by
      by_contra positive
      have frame := outcome.accepted (Int.not_lt.mp positive)
      have some := frame.consumed.positive
      exact absurd refused (Int.not_le.mpr some)
    show parsed.data ++ beyond = b ++ beyond
    rw [outcome.refused negative]
  · have frame := outcome.accepted (Int.le_of_lt accepted)
    exact ⟨frame.consumed.inside, (frame.terminates.extend beyond).terminated⟩

/-- A quoted subject that the sid follows without a space. -/
def adjacent : List UInt8 := ascii "MSG 'a'7 1\r\nx\r\n"

/-- The header line of that frame declares one byte. -/
theorem adjacent_frameLine :
    FrameLine adjacent 10 ⟨⟨4, 3⟩, ⟨7, 1⟩, none, ⟨9, 1⟩⟩ where
  keyword := by decide
  line := {
    space := by decide
    start := by decide
    first := by decide
    cr := by decide
    lf := by decide
    found := by decide
    sid_digits := by decide +kernel
    len_digits := by decide +kernel }

/-- The sid's digit is overwritten by the terminator of the subject, and a second frame behind the
first one is not touched. -/
theorem parse_terminators_adjacent :
    ∃ parsed, parse ⟨adjacent ++ ascii "PING\r\n", adjacent.length⟩ = .ok parsed ∧
      (parsed.rc ≤ 0 → parsed.data = adjacent ++ ascii "PING\r\n") ∧
      (0 < parsed.rc → parsed.rc ≤ adjacent.length ∧
        Terminated (adjacent ++ ascii "PING\r\n") parsed) := by
  apply parse_terminators
  · decide
  · intro max tokens frame
    obtain ⟨rfl, rfl⟩ := frame.line.unique adjacent_frameLine.line
    decide

end NgxNats
