import NgxNats.Verif.JsonDialect

/-!
# The parser stays inside its text

Every byte the parser reads is checked against the end of the text, every byte it copies against the
room for it, and every call and round against a bound. Whatever the text is, wherever in it a parser
starts and whatever the pool and `strtod` answer, none of these checks fails: the position only
moves forward and never passes the end, and every value takes at least one byte.
-/
namespace NgxNats

open Json

variable {env : JsonEnv} {b : List UInt8}

/-- The parser reads inside the text, copies inside its buffers and ends, with a negative code or
further on in the text. -/
def MovesInside {α : Type} (b : List UInt8) (parser : Json α) (ctx : JsonCtx) : Prop :=
  parser.Ends ctx (fun _ last => ctx.pos < last.pos ∧ last.pos ≤ b.length) Refusal

/-- Bytes were read between two positions. -/
theorem Json.At.moved {input text rest : List UInt8} {ctx last : JsonCtx} (here : At b input ctx)
    (split : input = text ++ rest) (nonempty : 0 < text.length) (behind : At b rest last) :
    ctx.pos < last.pos ∧ last.pos ≤ b.length := by
  have before := here.pos_eq
  have after := behind.pos_eq
  have length := congrArg List.length split
  rw [List.length_append] at length
  exact ⟨by omega, behind.inside⟩

/-- A value takes at least one byte. -/
theorem Json.ReadValue.moved {input : List UInt8} {value : JsonValue} {ctx last : JsonCtx}
    (here : At b input ctx) (read : ReadValue env b input value last) :
    ctx.pos < last.pos ∧ last.pos ≤ b.length := by
  obtain ⟨gap, text, rest, split, -, derives, -, behind⟩ := read
  obtain ⟨c, tail, rfl, -, -⟩ := Value.head derives
  apply here.moved split ?_ behind
  rw [List.length_append, List.length_cons]
  omega

/-- The rest of an object takes at least its brace. -/
theorem Json.ReadObject.moved {input : List UInt8} {needField : Bool}
    {fields all : List (List UInt8 × JsonValue)} {ctx last : JsonCtx} (here : At b input ctx)
    (read : ReadObject env b input needField fields all last) :
    ctx.pos < last.pos ∧ last.pos ≤ b.length := by
  obtain ⟨text, rest, more, split, -, -, behind⟩ := read
  have brace : input = (text ++ [125]) ++ rest := by
    rw [split, List.append_assoc]
    rfl
  apply here.moved brace ?_ behind
  rw [List.length_append, List.length_singleton]
  omega

/-- The rest of an array takes at least its bracket. -/
theorem Json.ReadArray.moved {input : List UInt8} {needField : Bool} {values all : List JsonValue}
    {ctx last : JsonCtx} (here : At b input ctx)
    (read : ReadArray env b input needField values all last) :
    ctx.pos < last.pos ∧ last.pos ≤ b.length := by
  obtain ⟨text, rest, more, split, -, -, behind⟩ := read
  have bracket : input = (text ++ [93]) ++ rest := by
    rw [split, List.append_assoc]
    rfl
  apply here.moved bracket ?_ behind
  rw [List.length_append, List.length_singleton]
  omega

/-- The parser stays inside its text, moves on and ends. From every position of every text, with
as many nested calls and rounds as twice the bytes that are left, whatever the pool and `strtod`
answer; and `ngx_nats_json_parse` on the whole text always answers. -/
theorem json_bounded (env : JsonEnv) (b : List UInt8) :
    (∀ ctx, ctx.pos ≤ b.length → Roomy ctx → ∀ fuel, 2 * (b.length - ctx.pos) + 2 ≤ fuel →
      MovesInside b (parseValue env (.ofList b) fuel) ctx ∧
      (∀ needField fields, MovesInside b (parseObject env (.ofList b) needField fields fuel) ctx) ∧
      (∀ needField values, MovesInside b (parseArray env (.ofList b) needField values fuel) ctx) ∧
      ∀ q, MovesInside b (parseString env (.ofList b) q) ctx) ∧
    ((∃ n value, 0 < n ∧ n ≤ b.length ∧ jsonParse env (.ofList b) = .ok (.ok (n, value))) ∨
      ∃ rc < 0, jsonParse env (.ofList b) = .ok (.error rc)) := by
  refine ⟨fun ctx inside roomy fuel enough => ?_, ?_⟩
  · have here : At b (b.drop ctx.pos) ctx := ⟨rfl, inside, roomy⟩
    obtain ⟨values, objects, arrays⟩ := reads_end env b fuel
    refine ⟨?_, fun needField fields => ?_, fun needField items => ?_, fun q => ?_⟩
    · apply Program.Ends.weaken (values _ ctx here (by rw [List.length_drop]; omega))
      intro value last read
      exact ReadValue.moved here read
    · apply Program.Ends.weaken (objects _ needField fields ctx here (by rwa [List.length_drop]))
      intro all last read
      exact ReadObject.moved here read
    · apply Program.Ends.weaken (arrays _ needField items ctx here (by rwa [List.length_drop]))
      intro all last read
      exact ReadArray.moved here read
    · apply Program.Ends.weaken (parseString_ends env q here)
      rintro bytes last ⟨body, rest, split, -, -, behind⟩
      have quoted : b.drop ctx.pos = (body ++ [q]) ++ rest := by
        rw [split, List.append_assoc]
        rfl
      apply here.moved quoted ?_ behind
      rw [List.length_append, List.length_singleton]
      omega
  · rcases jsonParse_cases env b with ⟨n, value, parsed, reads⟩ | refused
    · exact Or.inl ⟨n, value, reads.positive.1, reads.positive.2, parsed⟩
    · exact Or.inr refused

/-- A text that breaks off behind a minus sign, from the gap before it. -/
theorem json_bounded_truncated :
    MovesInside (ascii "[7, -") (parseValue plainJson (.ofList (ascii "[7, -")) 6) { pos := 3 } :=
  ((json_bounded plainJson (ascii "[7, -")).1 { pos := 3 } (by decide) ⟨0, by decide, rfl⟩ 6
    (by decide)).1

end NgxNats
